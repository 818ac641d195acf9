import TableTalk.Json.Reader
import Mathlib.Data.List.TakeDrop
import Mathlib.Data.List.TakeWhile

/-!
# TableTalk.Proofs.JsonFronts

JSON texts that break off. A blank that JSON does not pass over can stand within a string only, so
that the text before it writes no value.

## Main result

- `Json.read_front`: if a text with such a blank in it is read, the text before the blank goes
  wrong.

## Proof strategy

Each reader is given a text and the same text with the blank and more behind it. Unless the short
text goes wrong, the reader makes the same of both and leaves more of the long one (`Continues`).
For the readers of values this is an induction on fuel (`readersContinue`). A value that the short
text writes would so be followed by the blank in the long one.
-/

namespace TableTalk.Json

/-! ### Blanks that are not passed over -/

/-- A blank that is no space between the parts of a JSON text. -/
structure Foreign (c : Char) : Prop where
  blank : Text.isBlank c = true
  solid : isSpace c = false

section

variable {c : Char}

theorem Foreign.ne {d : Char} (foreign : Foreign c) (known : Text.isBlank d = false) : c ≠ d := by
  rintro rfl
  rw [foreign.blank] at known
  cases known

theorem Foreign.not_digit (foreign : Foreign c) : isDigit c = false := by
  have all : ∀ b ∈ Text.blanks, isDigit b = false := by decide
  exact all c (List.contains_iff_mem.mp foreign.blank)

theorem behind?_eq_some {d : Char} {s r : List Char} : behind? d s = some r ↔ s = d :: r := by
  cases s <;> simp

/-- No mark of a JSON text stands where such a blank stands. -/
theorem behind?_append (foreign : Foreign c) {d : Char} (known : Text.isBlank d = false)
    (s t : List Char) : behind? d (s ++ c :: t) = (behind? d s).map (· ++ c :: t) := by
  cases s with
  | nil => simp [foreign.ne known]
  | cons a s => by_cases same : a = d <;> simp [same]

theorem takeWhile_append_cons {p : Char → Bool} (stop : p c = false) (s t : List Char) :
    (s ++ c :: t).takeWhile p = s.takeWhile p := by
  induction s with
  | nil => simp [stop]
  | cons a s ih => by_cases pass : p a <;> simp [pass, ih]

theorem dropWhile_append_cons {p : Char → Bool} (stop : p c = false) (s t : List Char) :
    (s ++ c :: t).dropWhile p = s.dropWhile p ++ c :: t := by
  induction s with
  | nil => simp [stop]
  | cons a s ih => by_cases pass : p a <;> simp [pass, ih]

theorem skipSpace_append (foreign : Foreign c) (s t : List Char) :
    skipSpace (s ++ c :: t) = skipSpace s ++ c :: t :=
  dropWhile_append_cons foreign.solid s t

/-! ### A text and a front of it -/

/-- What a reader makes of a text, by what it makes of a front of it: the same, and the rest `y` is
left too. A front that goes wrong says nothing. -/
def Continues {α : Type} (y : List Char)
    (front whole : Except (Flaw Char) (α × List Char)) : Prop :=
  match front with
  | .ok (a, r) => whole = .ok (a, r ++ y)
  | .error (.beyond e) => whole = .error (.beyond e)
  | .error (.wrong _) => True

variable {α β : Type} {y : List Char}

theorem continues_wrong (r : List Char) (whole : Reading Char α) :
    Continues y (.error (.wrong r)) whole := trivial

theorem continues_beyond (e : Error) :
    Continues y (.error (.beyond e) : Reading Char α) (.error (.beyond e)) := rfl

theorem continues_ok (a : α) (r : List Char) : Continues y (.ok (a, r)) (.ok (a, r ++ y)) := rfl

theorem Continues.bind {front whole : Except (Flaw Char) (α × List Char)}
    {f g : α × List Char → Except (Flaw Char) (β × List Char)}
    (first : Continues y front whole)
    (next : ∀ a r, front = .ok (a, r) → Continues y (f (a, r)) (g (a, r ++ y))) :
    Continues y (front >>= f) (whole >>= g) := by
  rcases front with (rest | e) | ⟨a, r⟩
  · exact continues_wrong rest _
  · have same : whole = .error (.beyond e) := first
    rw [same]
    exact continues_beyond e
  · have same : whole = .ok (a, r ++ y) := first
    rw [same]
    exact next a r rfl

theorem Continues.map {front whole : Reading Char α} (f : α → β) (first : Continues y front whole) :
    Continues y (front.map fun (a, r) => (f a, r)) (whole.map fun (a, r) => (f a, r)) :=
  Continues.bind first fun a r _ => continues_ok (f a) r

end

section

variable {c : Char} (foreign : Foreign c) (t : List Char)

/-! ### Strings -/

theorem hex4?_append {s r : List Char} {n : Nat} (read : hex4? s = some (n, r)) (y : List Char) :
    hex4? (s ++ y) = some (n, r ++ y) := by
  unfold hex4? at read
  split at read
  next a b c d e s =>
    simp only [Text.shown_char, Option.bind_eq_bind, Option.bind_eq_some_iff, Option.pure_def,
      Option.some.injEq, Prod.mk.injEq] at read
    obtain ⟨w, hw, x, hx, z, hz, u, hu, rfl, rfl⟩ := read
    simp [hex4?, hw, hx, hz, hu]
  next => cases read

/-- What stands for a second half behind a first one, but breaks off. -/
def Torn (r : List Char) : Prop :=
  ∃ t, r = '\\' :: 'u' :: t ∧ hex4? t = none

theorem readChar_torn {r : List Char} (torn : Torn r) : ∃ s, readChar r = .error (.wrong s) := by
  obtain ⟨t, rfl, none⟩ := torn
  exact ⟨'u' :: t, by simp [readChar, readCode, none]⟩

include foreign in
theorem behind?_pair_append (r : List Char) :
    (behind? '\\' (r ++ c :: t)).bind (behind? 'u') =
      ((behind? '\\' r).bind (behind? 'u')).map (· ++ c :: t) := by
  rw [behind?_append foreign rfl]
  cases behind? '\\' r with
  | none => rfl
  | some u => exact behind?_append foreign rfl u t

theorem behind?_pair_eq_some {r u : List Char}
    (opens : (behind? '\\' r).bind (behind? 'u') = some u) : r = '\\' :: 'u' :: u := by
  obtain ⟨v, slash, number⟩ := Option.bind_eq_some_iff.mp opens
  rw [behind?_eq_some.mp slash, behind?_eq_some.mp number]

include foreign in
theorem readCode_append {s : List Char} (begun : s ≠ []) :
    Continues (c :: t) (readCode s) (readCode (s ++ c :: t)) ∨
      ∃ n r, readCode s = .ok (n, r) ∧ Torn r := by
  obtain ⟨a, s, rfl⟩ := List.exists_cons_of_ne_nil begun
  simp only [readCode, List.cons_append, List.drop_succ_cons, List.drop_zero]
  cases read : hex4? s with
  | none => exact .inl (continues_wrong _ _)
  | some found =>
    obtain ⟨n, r⟩ := found
    rw [hex4?_append read]
    by_cases high : Text.isHighHalf n = true
    · simp only [high, if_true, behind?_pair_append foreign]
      cases opens : (behind? '\\' r).bind (behind? 'u') with
      | none => exact .inl (continues_ok n r)
      | some u =>
        simp only [Option.map_some]
        cases second : hex4? u with
        | some found =>
          obtain ⟨m, r'⟩ := found
          simp only [hex4?_append second]
          left
          split
          · exact continues_ok _ r'
          · exact continues_ok n r
        | none =>
          by_cases short : u.length < 5
          · exact .inr ⟨n, r, by simp only [if_pos short], u, behind?_pair_eq_some opens, second⟩
          · simp only [if_neg short]
            exact .inl (continues_wrong _ _)
    · simp only [high]
      exact .inl (continues_ok n r)

theorem readChar_plain {a : Char} (plain : a ≠ '\\') (s : List Char) :
    readChar (a :: s) = .ok (a.toNat, s) := by
  cases s <;> simp [readChar, plain]

theorem readChar_escape {e : Char} (other : e ≠ 'u') (s : List Char) :
    readChar ('\\' :: e :: s) =
      match simpleEscape? e with
      | some d => .ok (d.toNat, s)
      | none => .error (.wrong ('\\' :: e :: s)) := by
  cases found : simpleEscape? e <;> simp [readChar, other, found]

include foreign in
theorem readChar_append (s : List Char) :
    Continues (c :: t) (readChar s) (readChar (s ++ c :: t)) ∨
      ∃ n r, readChar s = .ok (n, r) ∧ Torn r := by
  match s with
  | [] => exact .inl (continues_wrong _ _)
  | a :: s =>
    by_cases slash : a = '\\'
    · subst slash
      match s with
      | [] => exact .inl (continues_wrong _ _)
      | e :: s =>
        by_cases number : e = 'u'
        · subst number
          exact readCode_append foreign t (List.cons_ne_nil 'u' s)
        · left
          rw [List.cons_append, List.cons_append, readChar_escape number, readChar_escape number]
          split
          · exact continues_ok _ s
          · exact continues_wrong _ _
    · rw [List.cons_append, readChar_plain slash, readChar_plain slash]
      exact .inl (continues_ok _ s)

theorem readChars_torn {r : List Char} (torn : Torn r) (opening : List Char) (fuel : Nat) :
    ∃ s, readChars opening fuel r = .error (.wrong s) := by
  obtain ⟨u, rfl, none⟩ := torn
  obtain ⟨s, wrong⟩ := readChar_torn ⟨u, rfl, none⟩
  cases fuel with
  | zero => exact ⟨_, rfl⟩
  | succ fuel =>
    refine ⟨s, ?_⟩
    rw [readChars, if_neg (by decide), if_neg (by decide), if_neg (by simp), wrong]
    rfl

include foreign in
theorem readChars_append (opening opening' s : List Char) {fuel fuel' : Nat}
    (more : fuel ≤ fuel') :
    Continues (c :: t) (readChars opening fuel s) (readChars opening' fuel' (s ++ c :: t)) := by
  induction fuel generalizing s fuel' with
  | zero => cases s <;> exact continues_wrong _ _
  | succ fuel ih =>
    obtain ⟨fuel', rfl⟩ := Nat.exists_eq_succ_of_ne_zero (by omega : fuel' ≠ 0)
    cases s with
    | nil => exact continues_wrong _ _
    | cons a s =>
      rw [List.cons_append, readChars, readChars, Text.shown_char]
      by_cases quote : a = '\x22'
      · rw [if_pos quote, if_pos quote]
        exact continues_ok [] s
      by_cases control : a < ' '
      · rw [if_neg quote, if_pos control]
        exact continues_wrong _ _
      by_cases last : s.isEmpty = true
      · rw [if_neg quote, if_neg control, if_pos last]
        exact continues_wrong _ _
      have behind : ¬(s ++ c :: t).isEmpty = true := by simp
      rw [if_neg quote, if_neg quote, if_neg control, if_neg control, if_neg last, if_neg behind]
      rcases readChar_append foreign t (a :: s) with continues | ⟨n, r, read, torn⟩
      · refine continues.bind fun d r _ => (ih r (by omega)).bind fun ds r' _ => ?_
        exact continues_ok (d :: ds) r'
      · obtain ⟨w, wrong⟩ := readChars_torn torn opening fuel
        rw [read]
        simp only [bind, Except.bind, wrong]
        exact continues_wrong _ _

include foreign in
theorem readString_append {s : List Char} (begun : s ≠ []) :
    Continues (c :: t) (readString s) (readString (s ++ c :: t)) := by
  obtain ⟨a, s, rfl⟩ := List.exists_cons_of_ne_nil begun
  have more : (a :: s).length ≤ (a :: s ++ c :: t).length := by simp
  have chars := readChars_append foreign t (a :: s) (a :: s ++ c :: t) s more
  exact chars.map Scalar.ofCodes

/-! ### Numbers -/

include foreign in
theorem readDigits_append (s : List Char) :
    readDigits (s ++ c :: t) = ((readDigits s).1, (readDigits s).2 ++ c :: t) := by
  simp only [readDigits, Text.shown_char]
  rw [takeWhile_append_cons foreign.not_digit, dropWhile_append_cons foreign.not_digit]

include foreign in
theorem readFraction_append (s : List Char) :
    readFraction (s ++ c :: t) = ((readFraction s).1, (readFraction s).2 ++ c :: t) := by
  simp only [readFraction, behind?_append foreign (d := '.') rfl]
  cases behind? '.' s with
  | none => rfl
  | some r =>
    simp only [Option.map_some, readDigits_append foreign]
    rcases readDigits r with ⟨_ | ⟨d, ds⟩, r'⟩ <;> rfl

include foreign in
theorem readSign_append (s : List Char) :
    readSign (s ++ c :: t) = ((readSign s).1, (readSign s).2 ++ c :: t) := by
  simp only [readSign, behind?_append foreign (d := '-') rfl, behind?_append foreign (d := '+') rfl]
  cases behind? '-' s with
  | some r => rfl
  | none => cases behind? '+' s <;> rfl

include foreign in
theorem readExponent_append (s : List Char) :
    readExponent (s ++ c :: t) = ((readExponent s).1, (readExponent s).2 ++ c :: t) := by
  have letter : (behind? 'e' (s ++ c :: t)).or (behind? 'E' (s ++ c :: t)) =
      ((behind? 'e' s).or (behind? 'E' s)).map (· ++ c :: t) := by
    rw [behind?_append foreign rfl, behind?_append foreign rfl, Option.map_or]
  rw [readExponent, letter, readExponent]
  cases (behind? 'e' s).or (behind? 'E' s) with
  | none => rfl
  | some r =>
    simp only [Option.map_some, readSign_append foreign, readDigits_append foreign]
    rcases readDigits (readSign r).2 with ⟨_ | ⟨d, ds⟩, r'⟩ <;> rfl

include foreign in
theorem readWhole?_append (s : List Char) :
    readWhole? (s ++ c :: t) = (readWhole? s).map fun (ds, r) => (ds, r ++ c :: t) := by
  simp only [readWhole?, behind?_append foreign (d := '0') rfl]
  cases behind? '0' s with
  | some r => rfl
  | none =>
    simp only [Option.map_none, readDigits_append foreign]
    rcases readDigits s with ⟨_ | ⟨d, ds⟩, r⟩ <;> rfl

include foreign in
theorem readUnsigned?_append (negative : Bool) (s : List Char) :
    readUnsigned? negative (s ++ c :: t) =
      (readUnsigned? negative s).map fun (n, r) => (n, r ++ c :: t) := by
  rw [readUnsigned?, readWhole?_append foreign, readUnsigned?]
  cases readWhole? s with
  | none => rfl
  | some found =>
    obtain ⟨whole, r⟩ := found
    simp only [Option.map_some, readFraction_append foreign, readExponent_append foreign]
    split <;> try split
    all_goals rfl

include foreign in
theorem readNumber?_append (s : List Char) :
    readNumber? (s ++ c :: t) = (readNumber? s).map fun (n, r) => (n, r ++ c :: t) := by
  simp only [readNumber?, behind?_append foreign (d := '-') rfl]
  cases behind? '-' s with
  | some r => exact readUnsigned?_append foreign t true r
  | none => exact readUnsigned?_append foreign t false s

/-! ### Scalars -/

theorem afterKeyword?_append {word : List Char} (outside : c ∉ word) (s : List Char) :
    Text.afterKeyword? (fun k a => k == Text.Sign.shown a) word (s ++ c :: t) =
      (Text.afterKeyword? (fun k a => k == Text.Sign.shown a) word s).map (· ++ c :: t) := by
  induction word generalizing s with
  | nil => cases s <;> rfl
  | cons k word ih =>
    obtain ⟨different, outside⟩ := not_or.mp (mt List.mem_cons.mpr outside)
    cases s with
    | nil => simp [Text.afterKeyword?, Ne.symm different]
    | cons a s =>
      rw [List.cons_append, Text.afterKeyword?, Text.afterKeyword?, ih outside]
      split <;> rfl

include foreign in
theorem readNamed?_append (s : List Char) :
    readNamed? (s ++ c :: t) = (readNamed? s).map fun (v, r) => (v, r ++ c :: t) := by
  have known : ∀ named ∈ namedScalars, ∀ a ∈ named.1, Text.isBlank a = false := by decide
  unfold readNamed?
  generalize namedScalars = words at known
  induction words with
  | nil => rfl
  | cons first others ih =>
    obtain ⟨word, value⟩ := first
    obtain ⟨letters, known⟩ := List.forall_mem_cons.mp known
    have outside : c ∉ word := fun inside => foreign.ne (letters c inside) rfl
    rw [List.findSome?_cons, List.findSome?_cons, ih known]
    simp only [afterKeyword?_append t outside]
    cases Text.afterKeyword? (fun k a => k == Text.Sign.shown a) word s <;> rfl

include foreign in
theorem readScalar_append (s : List Char) :
    Continues (c :: t) (readScalar s) (readScalar (s ++ c :: t)) := by
  rw [readScalar, readScalar, readNamed?_append foreign, readNumber?_append foreign]
  rcases readNamed? s with _ | ⟨v, r⟩
  · rcases readNumber? s with _ | ⟨e | n, r⟩
    · exact continues_wrong _ _
    · exact continues_beyond e
    · exact continues_ok _ r
  · exact continues_ok _ r

/-! ### Values -/

/-- The readers of values go on as they do on a front, with at least as much fuel. -/
structure ReadersContinue (y : List Char) (fuel : Nat) : Prop where
  value : ∀ {fuel' : Nat}, fuel ≤ fuel' → ∀ room s,
    Continues y (readValue fuel room s) (readValue fuel' room (s ++ y))
  items : ∀ {fuel' : Nat}, fuel ≤ fuel' → ∀ room s,
    Continues y (readItems fuel room s) (readItems fuel' room (s ++ y))
  fields : ∀ {fuel' : Nat}, fuel ≤ fuel' → ∀ room before s,
    Continues y (readFields fuel room before s) (readFields fuel' room before (s ++ y))

section

variable {fuel fuel' : Nat} (parts : ReadersContinue (c :: t) fuel) (more : fuel ≤ fuel')

include foreign parts more

theorem readValue_append (room : Nat) (s : List Char) :
    Continues (c :: t) (readValue (fuel + 1) room s)
      (readValue (fuel' + 1) room (s ++ c :: t)) := by
  cases s with
  | nil => exact continues_wrong _ _
  | cons a s =>
    rw [List.cons_append, readValue, readValue, Text.shown_char]
    by_cases quote : a = '\x22'
    · rw [if_pos quote, if_pos quote]
      exact (readString_append foreign t (List.cons_ne_nil a s)).map Value.scalar
    rw [if_neg quote, if_neg quote]
    by_cases full : room = 0
    · simp only [if_pos full]
      split
      · exact continues_beyond _
      · split
        · exact continues_beyond _
        · exact readScalar_append foreign t (a :: s)
    simp only [if_neg full, skipSpace_append foreign, behind?_append foreign (d := '\x7d') rfl,
      behind?_append foreign (d := ']') rfl]
    generalize skipSpace s = w
    by_cases brace : a = '\x7b'
    · rw [if_pos brace, if_pos brace]
      cases behind? '\x7d' w with
      | some r => exact continues_ok _ r
      | none => exact (parts.fields more (room - 1) [] w).map Value.object
    rw [if_neg brace, if_neg brace]
    by_cases bracket : a = '['
    · rw [if_pos bracket, if_pos bracket]
      cases behind? ']' w with
      | some r => exact continues_ok _ r
      | none => exact (parts.items more (room - 1) w).map Value.list
    rw [if_neg bracket, if_neg bracket]
    exact readScalar_append foreign t (a :: s)

theorem readItems_append (room : Nat) (s : List Char) :
    Continues (c :: t) (readItems (fuel + 1) room s)
      (readItems (fuel' + 1) room (s ++ c :: t)) := by
  rw [readItems, readItems]
  refine (parts.value more room s).bind fun item r _ => ?_
  simp only [skipSpace_append foreign, behind?_append foreign (d := ']') rfl,
    behind?_append foreign (d := ',') rfl]
  generalize skipSpace r = w
  cases behind? ']' w with
  | some r => exact continues_ok [item] r
  | none =>
    cases behind? ',' w with
    | some r =>
      simp only [Option.map_some, Option.map_none, skipSpace_append foreign]
      exact (parts.items more room (skipSpace r)).bind fun items r' _ => continues_ok _ r'
    | none => exact continues_wrong _ _

theorem readFields_append (room : Nat) (before : List (Scalar × Value)) (s : List Char) :
    Continues (c :: t) (readFields (fuel + 1) room before s)
      (readFields (fuel' + 1) room before (s ++ c :: t)) := by
  cases s with
  | nil => exact continues_wrong _ _
  | cons a s =>
    rw [List.cons_append, readFields, readFields, Text.shown_char]
    by_cases quote : a = '\x22'
    · rw [if_pos quote, if_pos quote]
      refine (readString_append foreign t (List.cons_ne_nil a s)).bind fun key r _ => ?_
      simp only [skipSpace_append foreign, behind?_append foreign (d := ':') rfl]
      cases behind? ':' (skipSpace r) with
      | none => exact continues_wrong _ _
      | some r =>
        simp only [Option.map_some, skipSpace_append foreign]
        refine (parts.value more room (skipSpace r)).bind fun v r _ => ?_
        simp only [skipSpace_append foreign, behind?_append foreign (d := '\x7d') rfl,
          behind?_append foreign (d := ',') rfl]
        generalize skipSpace r = w
        cases behind? '\x7d' w with
        | some r => exact continues_ok _ r
        | none =>
          cases behind? ',' w with
          | some r =>
            simp only [Option.map_some, Option.map_none, skipSpace_append foreign]
            exact parts.fields more room _ (skipSpace r)
          | none => exact continues_wrong _ _
    · rw [if_neg quote, if_neg quote]
      exact continues_wrong _ _

end

include foreign in
theorem readersContinue (fuel : Nat) : ReadersContinue (c :: t) fuel := by
  induction fuel with
  | zero =>
    constructor
    · intro _ _ room s
      rw [readValue]
      exact continues_wrong _ _
    · intro _ _ room s
      rw [readItems]
      exact continues_wrong _ _
    · intro _ _ room before s
      rw [readFields]
      exact continues_wrong _ _
  | succ fuel ih =>
    constructor
    · intro fuel' more room s
      obtain ⟨fuel', rfl⟩ := Nat.exists_eq_succ_of_ne_zero (by omega : fuel' ≠ 0)
      exact readValue_append foreign t ih (Nat.le_of_succ_le_succ more) room s
    · intro fuel' more room s
      obtain ⟨fuel', rfl⟩ := Nat.exists_eq_succ_of_ne_zero (by omega : fuel' ≠ 0)
      exact readItems_append foreign t ih (Nat.le_of_succ_le_succ more) room s
    · intro fuel' more room before s
      obtain ⟨fuel', rfl⟩ := Nat.exists_eq_succ_of_ne_zero (by omega : fuel' ≠ 0)
      exact readFields_append foreign t ih (Nat.le_of_succ_le_succ more) room before s

/-! ### Whole texts -/

variable {t}

include foreign in
/-- A text that is read goes wrong if it breaks off before a blank that JSON does not pass over. -/
theorem read_front {room : Nat} {s : List Char} {v : Value}
    (whole : read room (s ++ c :: t) = .ok v) :
    ∃ place, read room s = .error (.malformed place) := by
  have more : 2 * s.length + 2 ≤ 2 * (s ++ c :: t).length + 2 := by
    rw [List.length_append]
    omega
  have continues := (readersContinue foreign t (2 * s.length + 2)).value more room (skipSpace s)
  rw [read, skipSpace_append foreign] at whole
  rw [read]
  generalize readValue (2 * s.length + 2) room (skipSpace s) = front at continues
  rcases front with (rest | e) | ⟨w, r⟩
  · exact ⟨_, rfl⟩
  · have same : readValue (2 * (s ++ c :: t).length + 2) room (skipSpace s ++ c :: t) =
        .error (.beyond e) := continues
    rw [same] at whole
    cases whole
  · -- The value is read from the long text too, and the blank is left behind it.
    have same : readValue (2 * (s ++ c :: t).length + 2) room (skipSpace s ++ c :: t) =
        .ok (w, r ++ c :: t) := continues
    rw [same] at whole
    simp only [skipSpace_append foreign] at whole
    split at whole
    next empty => simp at empty
    next => cases whole

include foreign in
theorem readValue_foreign (fuel room : Nat) (t : List Char) :
    ∃ r, readValue fuel room (c :: t) = .error (.wrong r) := by
  cases fuel with
  | zero => exact ⟨_, by rw [readValue]⟩
  | succ fuel =>
    have quote : c ≠ '\x22' := foreign.ne (by decide)
    have brace : c ≠ '\x7b' := foreign.ne (by decide)
    have bracket : c ≠ '[' := foreign.ne (by decide)
    have named : readNamed? (c :: t) = none := readNamed?_append foreign t []
    have number : readNumber? (c :: t) = none := readNumber?_append foreign t []
    refine ⟨c :: t, ?_⟩
    rw [readValue, Text.shown_char, if_neg quote, if_neg brace, if_neg bracket, readScalar, named,
      number]

end

/-- A text that is read begins, behind spaces, with a character that is not blank. -/
theorem exists_solid_of_read {room : Nat} {s : List Char} {v : Value}
    (whole : read room s = .ok v) :
    ∃ a r, skipSpace s = a :: r ∧ Text.isBlank a = false := by
  cases front : skipSpace s with
  | nil =>
    have wrong : readValue (2 * s.length + 2) room ([] : List Char) = .error (.wrong []) := by
      rw [readValue]
      omega
    rw [read, front, wrong] at whole
    cases whole
  | cons a r =>
    refine ⟨a, r, rfl, ?_⟩
    by_contra blank
    have stop := List.head?_dropWhile_not isSpace s
    have front' : s.dropWhile isSpace = a :: r := front
    rw [front'] at stop
    have foreign : Foreign a := ⟨by simpa using blank, by simpa using stop⟩
    obtain ⟨rest, wrong⟩ := readValue_foreign foreign (2 * s.length + 2) room r
    rw [read, front, wrong] at whole
    cases whole

theorem exists_mem_of_skipSpace {s r : List Char} {a : Char} (front : skipSpace s = a :: r)
    (solid : Text.isBlank a = false) : ∃ b ∈ s, Text.isBlank b = false := by
  have suffix : skipSpace s <:+ s := List.dropWhile_suffix isSpace
  rw [front] at suffix
  exact ⟨a, suffix.subset List.mem_cons_self, solid⟩

/-- Before such a blank, too, a text that is read has a character that is not blank. -/
theorem exists_solid_of_read_append {c : Char} (foreign : Foreign c) {room : Nat}
    {s t : List Char} {v : Value} (whole : read room (s ++ c :: t) = .ok v) :
    ∃ b ∈ s, Text.isBlank b = false := by
  obtain ⟨a, r, front, solid⟩ := exists_solid_of_read whole
  rw [skipSpace_append foreign] at front
  cases begins : skipSpace s with
  | nil =>
    rw [begins, List.nil_append] at front
    exact absurd (List.cons.inj front).1 (foreign.ne solid)
  | cons b u =>
    rw [begins] at front
    rw [(List.cons.inj front).1] at begins
    exact exists_mem_of_skipSpace begins solid

end TableTalk.Json
