import TableTalk.Json.Reader
import TableTalk.Json.Writer

/-!
# TableTalk.Proofs.JsonText

Values that are read back from the JSON text that writes them.

## Main result

- `Json.read_write`: null, true and false, texts, lists, and objects whose keys are distinct texts
  are read back, as long as they do not stand too deep within each other.

## Proof strategy

Each reader is given the text of its value and any text behind it, and returns the value and what
is behind it: a character (`readChar_writeChar`), a string (`readString_writeString`), the items of
a list and the fields of an object, each by induction on them, and a value by induction on the
value. Fuel twice the length of a text suffices for it.
-/

namespace TableTalk.Json

/-! ### Strings -/

theorem hexValue?_digitChar : ∀ d < 16, hexValue? (Nat.digitChar d) = some d := by decide

theorem hex4?_hexDigits {n : Nat} (small : n < 0x10000) (c : Char) (rest : List Char) :
    hex4? (Text.hexDigits 4 n ++ c :: rest) = some (n, c :: rest) := by
  have digit (m : Nat) : hexValue? (Nat.digitChar (m % 16)) = some (m % 16) :=
    hexValue?_digitChar _ (Nat.mod_lt m (by decide))
  simp only [Text.hexDigits, List.nil_append, List.cons_append, hex4?, Text.shown_char,
    digit, Option.bind_eq_bind, Option.bind_some, Option.pure_def, Option.some.injEq, Prod.mk.injEq,
    and_true]
  omega

/-- A character is written as an escape by letter, as one by number, or as itself. -/
theorem writeChar_cases (a : Char) :
    (∃ e, e ≠ 'u' ∧ simpleEscape? e = some a ∧ writeChar a = ['\\', e]) ∨
    (a < ' ' ∧ writeChar a = '\\' :: 'u' :: Text.hexDigits 4 a.toNat) ∨
    (a ≠ '\x22' ∧ a ≠ '\\' ∧ ¬a < ' ' ∧ writeChar a = [a]) := by
  unfold writeChar
  repeat' split
  case isFalse.isFalse.isFalse.isFalse.isFalse.isFalse.isFalse.isTrue control =>
    exact .inr (.inl ⟨control, rfl⟩)
  case isFalse.isFalse.isFalse.isFalse.isFalse.isFalse.isFalse.isFalse quote slash _ _ _ _ _
      plain =>
    exact .inr (.inr ⟨quote, slash, plain, rfl⟩)
  all_goals
    subst a
    exact .inl ⟨_, by decide, by decide, rfl⟩

/-- A written character opens with no quote and no control character. -/
theorem exists_writeChar (a : Char) :
    ∃ c r, writeChar a = c :: r ∧ c ≠ '\x22' ∧ ¬c < ' ' := by
  rcases writeChar_cases a with ⟨e, -, -, written⟩ | ⟨-, written⟩ | ⟨quote, -, plain, written⟩
  · exact ⟨_, _, written, by decide, by decide⟩
  · exact ⟨_, _, written, by decide, by decide⟩
  · exact ⟨_, _, written, quote, plain⟩

theorem readChar_writeChar (a c : Char) (rest : List Char) :
    readChar (writeChar a ++ c :: rest) = .ok (a.toNat, c :: rest) := by
  rcases writeChar_cases a with ⟨e, named, escape, written⟩ | ⟨control, written⟩ |
    ⟨_, slash, _, written⟩
  · simp [written, readChar, escape, named]
  · have small : a.toNat < 0x20 := control
    have whole : Text.isHighHalf a.toNat = false := by
      simp only [Text.isHighHalf, Bool.and_eq_false_iff, decide_eq_false_iff_not]
      omega
    rw [written, List.cons_append, List.cons_append, readChar, readCode, List.drop_one,
      List.tail_cons, hex4?_hexDigits (by omega)]
    simp [whole]
  · simp [written, readChar, slash]

theorem readChars_writeString (opening : List Char) (s rest : List Char) {fuel : Nat}
    (enough : s.length < fuel) :
    readChars opening fuel (s.flatMap writeChar ++ '\x22' :: rest) =
      .ok (s.map Char.toNat, rest) := by
  induction s generalizing fuel with
  | nil =>
    cases fuel with
    | zero => simp at enough
    | succ fuel => simp [readChars]
  | cons a s ih =>
    cases fuel with
    | zero => simp at enough
    | succ fuel =>
      -- What follows a character is at least the closing quote.
      obtain ⟨d, r, behind⟩ : ∃ d r, s.flatMap writeChar ++ '\x22' :: rest = d :: r :=
        List.exists_cons_of_ne_nil (by simp)
      obtain ⟨c, t, written, quote, plain⟩ := exists_writeChar a
      have read := readChar_writeChar a d r
      have others : readChars opening fuel (s.flatMap writeChar ++ '\x22' :: rest) =
          .ok (s.map Char.toNat, rest) := ih (by simpa using enough)
      rw [behind] at others
      rw [written, List.cons_append] at read
      rw [List.flatMap_cons, List.append_assoc, behind, written, List.cons_append, readChars,
        Text.shown_char, if_neg quote, if_neg plain, if_neg (by simp), read]
      simp [others, bind, Except.bind, pure, Except.pure]

theorem ofCodes_map_toNat (s : List Char) :
    Scalar.ofCodes (s.map Char.toNat) = .text (.ofList s) := by
  have whole : (s.map Char.toNat).any Text.isHalf = false := by simp [Text.isHalf_toNat]
  have same : (s.map Char.toNat).map Char.ofNat = s := by simp [Function.comp_def]
  rw [Scalar.ofCodes, whole, same]
  rfl

theorem length_le_flatMap_writeChar (s : List Char) : s.length ≤ (s.flatMap writeChar).length := by
  induction s with
  | nil => exact Nat.le_refl 0
  | cons a s ih =>
    obtain ⟨c, r, written, -⟩ := exists_writeChar a
    simp only [List.flatMap_cons, List.length_append, List.length_cons, written]
    omega

theorem readString_writeString (s rest : List Char) :
    readString (writeString s ++ rest) = .ok (.text (.ofList s), rest) := by
  have written : writeString s ++ rest = '\x22' :: (s.flatMap writeChar ++ '\x22' :: rest) := by
    simp [writeString]
  have enough : s.length < ('\x22' :: (s.flatMap writeChar ++ '\x22' :: rest)).length := by
    have := length_le_flatMap_writeChar s
    simp only [List.length_cons, List.length_append]
    omega
  rw [readString, written, List.drop_one, List.tail_cons, readChars_writeString _ _ _ enough]
  simp only [Except.map, ofCodes_map_toNat]

/-! ### Steps of the readers -/

section

variable {fuel room : Nat} {s t rest : List Char} {v : Value}

theorem readItems_last (item : readValue fuel room s = .ok (v, ']' :: rest)) :
    readItems (fuel + 1) room s = .ok ([v], rest) := by
  rw [readItems, item]
  simp [bind, Except.bind, skipSpace_cons (a := ']') rfl, pure, Except.pure]

theorem readItems_next {items : List Value} (item : readValue fuel room s = .ok (v, ',' :: t))
    (others : readItems fuel room (skipSpace t) = .ok (items, rest)) :
    readItems (fuel + 1) room s = .ok (v :: items, rest) := by
  rw [readItems, item]
  simp [bind, Except.bind, skipSpace_cons (a := ',') rfl, others, pure, Except.pure]

theorem readFields_last {before : List (Scalar × Value)} {key : List Char}
    (value : readValue fuel room (skipSpace s) = .ok (v, '\x7d' :: rest)) :
    readFields (fuel + 1) room before (writeString key ++ ':' :: s) =
      .ok (Value.setField (.text (.ofList key)) v before, rest) := by
  have string := readString_writeString key (':' :: s)
  rw [writeString, List.cons_append, List.cons_append] at string ⊢
  rw [readFields, string]
  simp [bind, Except.bind, skipSpace_cons (a := ':') rfl, skipSpace_cons (a := '\x7d') rfl, value,
    pure, Except.pure]

theorem readFields_next {before fields : List (Scalar × Value)} {key : List Char}
    (value : readValue fuel room (skipSpace s) = .ok (v, ',' :: t))
    (others : readFields fuel room (Value.setField (.text (.ofList key)) v before) (skipSpace t) =
      .ok (fields, rest)) :
    readFields (fuel + 1) room before (writeString key ++ ':' :: s) = .ok (fields, rest) := by
  have string := readString_writeString key (':' :: s)
  rw [writeString, List.cons_append, List.cons_append] at string ⊢
  rw [readFields, string]
  simp [bind, Except.bind, skipSpace_cons (a := ':') rfl, skipSpace_cons (a := ',') rfl, value,
    others]

theorem readValue_string (key : List Char) :
    readValue (fuel + 1) room (writeString key ++ rest) = .ok (.text (.ofList key), rest) := by
  have string := readString_writeString key rest
  rw [writeString, List.cons_append, List.cons_append] at string ⊢
  rw [readValue, if_pos (Text.shown_char _), string]
  rfl

theorem readValue_list_empty :
    readValue (fuel + 1) (room + 1) ('[' :: ']' :: rest) = .ok (.list [], rest) := by
  simp [readValue, skipSpace_cons (a := ']') rfl]

theorem readValue_list {c : Char} {items : List Value} (solid : isSpace c = false)
    (proper : c ≠ ']') (read : readItems fuel room (c :: s) = .ok (items, rest)) :
    readValue (fuel + 1) (room + 1) ('[' :: c :: s) = .ok (.list items, rest) := by
  rw [readValue, if_neg (by decide), if_neg (by decide), if_pos (Text.shown_char _),
    if_neg (Nat.succ_ne_zero room), skipSpace_cons solid, behind?_cons, Text.shown_char,
    if_neg proper, Nat.add_sub_cancel, read]
  rfl

theorem readValue_object_empty :
    readValue (fuel + 1) (room + 1) ('\x7b' :: '\x7d' :: rest) = .ok (.object [], rest) := by
  simp [readValue, skipSpace_cons (a := '\x7d') rfl]

theorem readValue_object {fields : List (Scalar × Value)}
    (read : readFields fuel room [] ('\x22' :: s) = .ok (fields, rest)) :
    readValue (fuel + 1) (room + 1) ('\x7b' :: '\x22' :: s) = .ok (.object fields, rest) := by
  simp [readValue, skipSpace_cons (a := '\x22') rfl, read, Except.map]

end

/-! ### Values -/

/-- A value that can be written without numbers, with room for so many values within each
other. -/
inductive Wordy : Nat → Value → Prop
  | null {room : Nat} : Wordy room .null
  | bool {room : Nat} (b : Bool) : Wordy room (.bool b)
  | text {room : Nat} (s : String) : Wordy room (.text s)
  | list {room : Nat} {items : List Value} (each : ∀ v ∈ items, Wordy room v) :
    Wordy (room + 1) (.list items)
  | object {room : Nat} {fields : List (Scalar × Value)}
    (keys : ∀ field ∈ fields, ∃ key, field.1 = .text key) (distinct : (fields.map Prod.fst).Nodup)
    (each : ∀ field ∈ fields, Wordy room field.2) : Wordy (room + 1) (.object fields)

theorem Wordy.record {room : Nat} {fields : List (String × Value)}
    (distinct : (fields.map Prod.fst).Nodup) (each : ∀ field ∈ fields, Wordy room field.2) :
    Wordy (room + 1) (.record fields) := by
  refine .object (fun field member => ?_) ?_ fun field member => ?_
  · obtain ⟨⟨key, v⟩, -, rfl⟩ := List.mem_map.mp member
    exact ⟨key, rfl⟩
  · have keys : ((fields.map Prod.fst).map Scalar.text).Nodup :=
      List.Pairwise.map Scalar.text (fun _ _ different => mt Scalar.text.inj different) distinct
    rwa [List.map_map] at keys ⊢
  · obtain ⟨⟨key, v⟩, inside, rfl⟩ := List.mem_map.mp member
    exact each _ inside

theorem Wordy.texts {room : Nat} (items : List String) : Wordy (room + 1) (.texts items) := by
  refine .list fun v member => ?_
  obtain ⟨s, -, rfl⟩ := List.mem_map.mp member
  exact .text s

theorem Wordy.ofText? {room : Nat} (s? : Option String) : Wordy room (.ofText? s?) := by
  cases s? with
  | none => exact .null
  | some s => exact .text s

/-- A text of a value opens neither with a blank nor with the end of a list. -/
theorem Wordy.exists_write {room : Nat} {v : Value} (wordy : Wordy room v) :
    ∃ c r, write v = c :: r ∧ isSpace c = false ∧ c ≠ ']' := by
  cases wordy with
  | null => exact ⟨_, _, rfl, by decide, by decide⟩
  | bool b => cases b <;> exact ⟨_, _, rfl, by decide, by decide⟩
  | text s => exact ⟨_, _, rfl, by decide, by decide⟩
  | list each => exact ⟨_, _, by rw [write], by decide, by decide⟩
  | object keys distinct each => exact ⟨_, _, by rw [write], by decide, by decide⟩

theorem exists_writeItems {room : Nat} {items : List Value} (some : items ≠ [])
    (each : ∀ v ∈ items, Wordy room v) :
    ∃ c r, writeItems items = c :: r ∧ isSpace c = false ∧ c ≠ ']' := by
  cases items with
  | nil => exact absurd rfl some
  | cons v others =>
    obtain ⟨c, r, written, begins⟩ := (each v List.mem_cons_self).exists_write
    cases others with
    | nil => exact ⟨c, _, by rw [writeItems, written, List.cons_append], begins⟩
    | cons next others => exact ⟨c, _, by rw [writeItems, written, List.cons_append], begins⟩

theorem exists_writeFields {fields : List (Scalar × Value)} (some : fields ≠ [])
    (keys : ∀ field ∈ fields, ∃ key, field.1 = .text key) :
    ∃ r, writeFields fields = '\x22' :: r := by
  cases fields with
  | nil => exact absurd rfl some
  | cons field others =>
    obtain ⟨key, v⟩ := field
    obtain ⟨key, rfl⟩ := keys _ List.mem_cons_self
    cases others with
    | nil => exact ⟨_, by rw [writeFields]; rfl⟩
    | cons next others => exact ⟨_, by rw [writeFields]; rfl⟩

/-- A reader gives a value back from its text, whatever stands behind it. -/
def ReadsBack (room : Nat) (v : Value) : Prop :=
  ∀ (fuel : Nat) (rest : List Char), 2 * (write v).length ≤ fuel →
    readValue fuel room (write v ++ rest) = .ok (v, rest)

theorem readItems_write {room : Nat} {items : List Value} (some : items ≠ [])
    (each : ∀ v ∈ items, Wordy room v) (back : ∀ v ∈ items, ReadsBack room v) {fuel : Nat}
    (rest : List Char) (enough : 2 * (writeItems items).length ≤ fuel) :
    readItems fuel room (writeItems items ++ rest) = .ok (items, rest) := by
  induction items generalizing fuel with
  | nil => exact absurd rfl some
  | cons v others ih =>
    cases fuel with
    | zero =>
      obtain ⟨c, r, written, -⟩ := exists_writeItems some each
      simp [written] at enough
    | succ fuel =>
      cases others with
      | nil =>
        rw [writeItems, List.length_append, List.length_singleton] at enough
        rw [writeItems, List.append_assoc]
        exact readItems_last (back v List.mem_cons_self fuel _ (by omega))
      | cons next others =>
        have some' : next :: others ≠ [] := List.cons_ne_nil _ _
        have each' := fun w member => each w (List.mem_cons_of_mem v member)
        rw [writeItems, List.length_append, List.length_cons] at enough
        rw [writeItems, List.append_assoc, List.cons_append]
        refine readItems_next (back v List.mem_cons_self fuel _ (by omega)) ?_
        obtain ⟨c, r, written, solid, -⟩ := exists_writeItems some' each'
        rw [written, List.cons_append, skipSpace_cons solid, ← List.cons_append, ← written]
        exact ih some' each' (fun w member => back w (List.mem_cons_of_mem v member)) (by omega)

theorem setField_of_notMem {key : Scalar} (v : Value) {fields : List (Scalar × Value)}
    (fresh : key ∉ fields.map Prod.fst) : Value.setField key v fields = fields ++ [(key, v)] := by
  induction fields with
  | nil => rfl
  | cons field others ih =>
    rw [List.map_cons, List.mem_cons, not_or] at fresh
    rw [Value.setField, if_neg (Ne.symm fresh.1), ih fresh.2, List.cons_append]

theorem readFields_write {room : Nat} {before fields : List (Scalar × Value)} (some : fields ≠ [])
    (keys : ∀ field ∈ fields, ∃ key, field.1 = .text key)
    (distinct : ((before ++ fields).map Prod.fst).Nodup)
    (each : ∀ field ∈ fields, Wordy room field.2)
    (back : ∀ field ∈ fields, ReadsBack room field.2) {fuel : Nat}
    (rest : List Char) (enough : 2 * (writeFields fields).length ≤ fuel) :
    readFields fuel room before (writeFields fields ++ rest) = .ok (before ++ fields, rest) := by
  induction fields generalizing before fuel with
  | nil => exact absurd rfl some
  | cons field others ih =>
    cases fuel with
    | zero =>
      obtain ⟨r, written⟩ := exists_writeFields some keys
      simp [written] at enough
    | succ fuel =>
      obtain ⟨key, v⟩ := field
      obtain ⟨key, rfl⟩ := keys _ List.mem_cons_self
      obtain ⟨c, r, written, solid, -⟩ := (each _ List.mem_cons_self).exists_write
      have value (t : List Char) (within : 2 * (write v).length ≤ fuel) :
          readValue fuel room (skipSpace (write v ++ t)) = .ok (v, t) := by
        have same : skipSpace (write v ++ t) = write v ++ t := by
          rw [written, List.cons_append, skipSpace_cons solid]
        rw [same]
        exact back _ List.mem_cons_self fuel t within
      have fresh : Scalar.text key ∉ before.map Prod.fst := by
        rw [List.map_append, List.map_cons, List.nodup_append] at distinct
        exact fun member => distinct.2.2 _ member _ List.mem_cons_self rfl
      have set : Value.setField (.text (.ofList key.toList)) v before =
          before ++ [(.text key, v)] := by
        rw [String.ofList_toList, setField_of_notMem v fresh]
      have opening : writeKey (.text key) = writeString key.toList := rfl
      cases others with
      | nil =>
        rw [writeFields] at enough
        simp only [List.length_append, List.length_cons] at enough
        rw [writeFields, opening, List.append_assoc, List.cons_append, List.append_assoc, ← set]
        exact readFields_last (value _ (by omega))
      | cons next others =>
        have some' : next :: others ≠ [] := List.cons_ne_nil _ _
        have keys' := fun other member => keys other (List.mem_cons_of_mem _ member)
        rw [writeFields] at enough
        simp only [List.length_append, List.length_cons] at enough
        rw [writeFields, opening, List.append_assoc, List.cons_append, List.append_assoc,
          List.cons_append]
        refine readFields_next (value _ (by omega)) ?_
        obtain ⟨t, written'⟩ := exists_writeFields some' keys'
        have same : skipSpace (writeFields (next :: others) ++ rest) =
            writeFields (next :: others) ++ rest := by
          rw [written', List.cons_append, skipSpace_cons rfl]
        have moved := List.append_cons before (Scalar.text key, v) (next :: others)
        rw [same, set, moved]
        rw [moved] at distinct
        refine ih some' keys' distinct (fun other member => ?_) (fun other member => ?_) ?_
        · exact each other (List.mem_cons_of_mem _ member)
        · exact back other (List.mem_cons_of_mem _ member)
        · omega

theorem Wordy.readsBack_of_succ {room : Nat} {v : Value} (wordy : Wordy room v)
    (back : ∀ (fuel : Nat) (rest : List Char), 2 * (write v).length ≤ fuel + 1 →
      readValue (fuel + 1) room (write v ++ rest) = .ok (v, rest)) : ReadsBack room v := by
  intro fuel rest enough
  cases fuel with
  | zero =>
    obtain ⟨c, r, written, -⟩ := wordy.exists_write
    simp [written] at enough
  | succ fuel => exact back fuel rest enough

theorem Wordy.readsBack {room : Nat} {v : Value} (wordy : Wordy room v) : ReadsBack room v := by
  induction wordy with
  | null =>
    refine Wordy.null.readsBack_of_succ fun fuel rest _ => ?_
    simp [write, writeScalar, readValue, readScalar, readNamed?, namedScalars, Text.afterKeyword?]
  | bool b =>
    refine (Wordy.bool b).readsBack_of_succ fun fuel rest _ => ?_
    cases b <;> simp [write, writeScalar, readValue, readScalar, readNamed?, namedScalars,
      Text.afterKeyword?]
  | text s =>
    refine (Wordy.text s).readsBack_of_succ fun fuel rest _ => ?_
    have written : write (.text s) = writeString s.toList := rfl
    rw [written, readValue_string, String.ofList_toList]
  | @list room items each back =>
    refine (Wordy.list each).readsBack_of_succ fun fuel rest enough => ?_
    rw [write, List.length_cons] at enough
    rw [write, List.cons_append]
    cases items with
    | nil => exact readValue_list_empty
    | cons v others =>
      have some : v :: others ≠ [] := List.cons_ne_nil v others
      obtain ⟨c, r, written, solid, proper⟩ := exists_writeItems some each
      have read : readItems fuel room (writeItems (v :: others) ++ rest) =
          .ok (v :: others, rest) :=
        readItems_write some each back rest (by omega)
      rw [written, List.cons_append] at read ⊢
      exact readValue_list solid proper read
  | @object room fields keys distinct each back =>
    refine (Wordy.object keys distinct each).readsBack_of_succ fun fuel rest enough => ?_
    rw [write, List.length_cons] at enough
    rw [write, List.cons_append]
    cases fields with
    | nil => exact readValue_object_empty
    | cons field others =>
      have some : field :: others ≠ [] := List.cons_ne_nil field others
      obtain ⟨r, written⟩ := exists_writeFields some keys
      have read : readFields fuel room [] (writeFields (field :: others) ++ rest) =
          .ok (field :: others, rest) :=
        readFields_write some keys distinct each back rest (by omega)
      rw [written, List.cons_append] at read ⊢
      exact readValue_object read

/-- A value that can be written without numbers is read back from its text, if there is room for
it. -/
theorem read_write {room : Nat} {v : Value} (wordy : Wordy room v) :
    read room (write v) = .ok v := by
  obtain ⟨c, r, written, solid, -⟩ := wordy.exists_write
  have front : skipSpace (write v) = write v := by rw [written, skipSpace_cons solid]
  have value := wordy.readsBack (2 * (write v).length + 2) [] (by omega)
  rw [List.append_nil] at value
  rw [read, front, value]
  rfl

end TableTalk.Json
