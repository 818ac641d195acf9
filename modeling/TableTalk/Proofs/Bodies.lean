import TableTalk.Http
import Mathlib.Data.List.TakeDrop
import Mathlib.Data.List.TakeWhile

/-!
# TableTalk.Proofs.Bodies

What the bytes of a body are read as. A text of ASCII is read from its own bytes as it is, and an
integer of too many digits is JSON that no value is made of.
-/

namespace TableTalk

/-! ### Bytes -/

namespace Text

/-- The bytes of a text of ASCII. -/
def bytesOf (s : List Char) : List UInt8 :=
  s.map fun c => .ofNat c.toNat

/-- A character of ASCII that has not the number zero. -/
def IsAscii (c : Char) : Prop :=
  0 < c.toNat ∧ c.toNat < 0x80

instance (c : Char) : Decidable (IsAscii c) :=
  inferInstanceAs (Decidable (_ ∧ _))

theorem toNat_byte {c : Char} (ascii : IsAscii c) : (UInt8.ofNat c.toNat).toNat = c.toNat := by
  rw [UInt8.toNat_ofNat', Nat.mod_eq_of_lt (Nat.lt_trans ascii.2 (by decide))]

theorem ofBytes_of_ascii {bytes : List UInt8} (ascii : ∀ byte ∈ bytes, byte ≠ 0 ∧ byte < 0x80) :
    Encoding.ofBytes bytes = (.utf8, bytes) := by
  -- A mark of byte order begins with a byte that no character of ASCII has.
  have fronts : ∀ m ∈ Encoding.marks, ∃ a r, m.1 = a :: r ∧ ¬(a ≠ 0 ∧ a < 0x80) := by
    simp [Encoding.marks]
  have unmarked : Encoding.marks.find? (fun mark => mark.1.isPrefixOf bytes) = none := by
    refine List.find?_eq_none.mpr fun m member begins => ?_
    obtain ⟨a, r, front, other⟩ := fronts m member
    obtain ⟨t, rfl⟩ := List.isPrefixOf_iff_prefix.mp begins
    exact other (ascii a (by simp [front]))
  have plain : Encoding.ofZeros bytes = .utf8 := by
    unfold Encoding.ofZeros
    split <;> simp_all
  rw [Encoding.ofBytes, unmarked, plain]

theorem codes8?_cons {a : UInt8} (single : a < 0x80) (rest : List UInt8) :
    codes8? (a :: rest) = (codes8? rest).map (a.toNat :: ·) := by
  conv_lhs => unfold codes8?
  rw [if_pos single]

theorem codes8?_bytesOf {s : List Char} (ascii : ∀ c ∈ s, IsAscii c) :
    codes8? (bytesOf s) = some (s.map Char.toNat) := by
  induction s with
  | nil => rfl
  | cons c s ih =>
    obtain ⟨first, others⟩ := List.forall_mem_cons.mp ascii
    have single : UInt8.ofNat c.toNat < 0x80 := by
      rw [UInt8.lt_iff_toNat_lt, toNat_byte first]
      exact first.2
    have rest : codes8? (s.map fun c => .ofNat c.toNat) = some (s.map Char.toNat) := ih others
    rw [bytesOf, List.map_cons, codes8?_cons single, rest, toNat_byte first]
    rfl

theorem decode?_bytesOf {s : List Char} (ascii : ∀ c ∈ s, IsAscii c) :
    decode? (bytesOf s) = some (s.map Char.toNat) := by
  have bytes : ∀ byte ∈ bytesOf s, byte ≠ 0 ∧ byte < 0x80 := by
    intro byte member
    obtain ⟨c, inside, rfl⟩ := List.mem_map.mp member
    obtain ⟨positive, small⟩ := ascii c inside
    rw [ne_eq, ← UInt8.toNat_inj, UInt8.lt_iff_toNat_lt, toNat_byte (ascii c inside)]
    exact ⟨positive.ne', small⟩
  rw [decode?, ofBytes_of_ascii bytes]
  exact codes8?_bytesOf ascii

end Text

/-! ### Integers of too many digits -/

namespace Json

open Text.Sign (shown)

section

variable {α : Type} [Text.Sign α]

theorem ne_of_isDigit {c d : Char} (digit : isDigit c = true) (other : isDigit d = false) :
    c ≠ d := by
  rintro rfl
  simp [digit] at other

theorem skipSpace_digit {a : α} (digit : isDigit (shown a) = true) (s : List α) :
    skipSpace (a :: s) = a :: s := by
  have solid {c : Char} (space : isDigit c = false) : shown a ≠ c := ne_of_isDigit digit space
  exact skipSpace_cons (by simp [isSpace, isDigit, solid]) s

theorem readNamed?_digit {a : α} (digit : isDigit (shown a) = true) (s : List α) :
    readNamed? (a :: s) = none := by
  have other {c : Char} (letter : isDigit c = false) : c ≠ shown a :=
    (ne_of_isDigit digit letter).symm
  simp [readNamed?, namedScalars, Text.afterKeyword?, isDigit, other]

theorem readNumber?_digit {a : α} (digit : isDigit (shown a) = true) (s : List α) :
    readNumber? (a :: s) = readUnsigned? false (a :: s) := by
  rw [readNumber?, behind?_cons, if_neg (ne_of_isDigit digit (by decide))]

/-- A number in digits ends before such a text. -/
structure EndsNumber (rest : List α) : Prop where
  digit : ∀ a ∈ rest.head?, isDigit (shown a) = false
  mark : ∀ a ∈ rest.head?, shown a ∉ ['.', 'e', 'E']

namespace EndsNumber

variable {rest : List α}

theorem nil : EndsNumber ([] : List α) :=
  ⟨by simp, by simp⟩

theorem readDigits (ends : EndsNumber rest) : readDigits rest = ([], rest) := by
  cases rest with
  | nil => rfl
  | cons a r => simp [Json.readDigits, ends.digit a rfl]

theorem behind?_eq_none (ends : EndsNumber rest) {c : Char} (known : c ∈ ['.', 'e', 'E']) :
    behind? c rest = none := by
  cases rest with
  | nil => rfl
  | cons a r =>
    rw [behind?_cons, if_neg]
    rintro rfl
    exact ends.mark a rfl known

theorem readFraction (ends : EndsNumber rest) : readFraction rest = ([], rest) := by
  rw [Json.readFraction, ends.behind?_eq_none (by decide)]
  rfl

theorem readExponent (ends : EndsNumber rest) : readExponent rest = (none, rest) := by
  rw [Json.readExponent, ends.behind?_eq_none (by decide), ends.behind?_eq_none (by decide)]
  rfl

end EndsNumber

/-- An integer in more digits than are read. -/
structure Overlong (ds : List α) : Prop where
  digits : ∀ a ∈ ds, isDigit (shown a) = true
  proper : ∀ a ∈ ds.head?, shown a ≠ '0'
  long : mostDigits < ds.length

variable {ds : List α}

theorem readDigits_digits_append {rest : List α} (digits : ∀ a ∈ ds, isDigit (shown a) = true)
    (ends : EndsNumber rest) : readDigits (ds ++ rest) = (ds.map shown, rest) := by
  have none := ends.readDigits
  rw [readDigits, Prod.mk.injEq] at none
  rw [readDigits, List.takeWhile_append_of_pos digits, List.dropWhile_append_of_pos digits,
    List.map_append, none.1, none.2, List.append_nil]

namespace Overlong

theorem exists_cons (overlong : Overlong ds) : ∃ a r, ds = a :: r :=
  List.exists_cons_of_length_pos (Nat.zero_lt_of_lt overlong.long)

theorem readUnsigned? (overlong : Overlong ds) (negative : Bool) {rest : List α}
    (ends : EndsNumber rest) :
    readUnsigned? negative (ds ++ rest) = some (.error (.integerTooLong ds.length), rest) := by
  obtain ⟨a, r, rfl⟩ := overlong.exists_cons
  have whole : readWhole? (a :: r ++ rest) = some ((a :: r).map shown, rest) := by
    rw [readWhole?, readDigits_digits_append overlong.digits ends, List.cons_append, behind?_cons,
      if_neg (overlong.proper a rfl)]
    rfl
  rw [Json.readUnsigned?, whole, Option.map_some]
  simp only [ends.readFraction, ends.readExponent, List.isEmpty_nil, Option.isNone_none,
    Bool.and_self, if_true, List.length_map, if_pos overlong.long]

theorem readValue (overlong : Overlong ds) {rest : List α} (ends : EndsNumber rest)
    (fuel room : Nat) :
    readValue (fuel + 1) room (ds ++ rest) = .error (.beyond (.integerTooLong ds.length)) := by
  have number := overlong.readUnsigned? false ends
  obtain ⟨a, r, rfl⟩ := overlong.exists_cons
  have digit : isDigit (shown a) = true := overlong.digits a List.mem_cons_self
  have value : Json.readValue (fuel + 1) room (a :: (r ++ rest)) =
      readScalar (a :: (r ++ rest)) := by
    rw [Json.readValue, if_neg (ne_of_isDigit digit (by decide)),
      if_neg (ne_of_isDigit digit (by decide)), if_neg (ne_of_isDigit digit (by decide))]
  rw [List.cons_append, value, readScalar, readNamed?_digit digit, readNumber?_digit digit,
    ← List.cons_append, number]

theorem skipSpace (overlong : Overlong ds) (rest : List α) :
    skipSpace (ds ++ rest) = ds ++ rest := by
  obtain ⟨a, r, rfl⟩ := overlong.exists_cons
  exact skipSpace_digit (overlong.digits a List.mem_cons_self) (r ++ rest)

/-- Such an integer is JSON that no value is made of. -/
theorem read (overlong : Overlong ds) (room : Nat) :
    read room ds = .error (.beyond (.integerTooLong ds.length)) := by
  have value := overlong.readValue EndsNumber.nil (2 * ds.length + 1) room
  have front := overlong.skipSpace []
  rw [List.append_nil] at value front
  rw [Json.read, front, value]
  rfl

end Overlong

end

namespace Overlong

theorem replicate {n : Nat} (long : mostDigits < n) : Overlong (List.replicate n '1') where
  digits c member := by
    rw [List.eq_of_mem_replicate member]
    decide
  proper c first := by
    rw [List.eq_of_mem_replicate (List.mem_of_mem_head? first)]
    decide
  long := by rwa [List.length_replicate]

theorem numbers {ds : List Char} (overlong : Overlong ds) : Overlong (ds.map Char.toNat) where
  digits := List.forall_mem_map.mpr fun c member => by
    rw [Text.shown_toNat]
    exact overlong.digits c member
  proper n first := by
    rw [List.head?_map] at first
    obtain ⟨c, begins, rfl⟩ := Option.map_eq_some_iff.mp first
    rw [Text.shown_toNat]
    exact overlong.proper c begins
  long := by
    rw [List.length_map]
    exact overlong.long

/-- An object whose first field is such an integer is JSON that no value is made of, too. The
numbers before the integer are those of an opening brace, a name of one letter, and a colon. -/
theorem read_field {ds rest : List Nat} (overlong : Overlong ds) (ends : EndsNumber rest)
    (room : Nat) :
    Json.read (room + 1) (0x7b :: 0x22 :: 0x6e :: 0x22 :: 0x3a :: (ds ++ rest)) =
      .error (.beyond (.integerTooLong ds.length)) := by
  have brace : shown (0x7b : Nat) = '\x7b' := rfl
  have quote : shown (0x22 : Nat) = '\x22' := rfl
  have key : readString (0x22 :: 0x6e :: 0x22 :: 0x3a :: (ds ++ rest)) =
      .ok (.ofCodes [0x6e], 0x3a :: (ds ++ rest)) := rfl
  have colon : behind? ':' (Json.skipSpace (0x3a :: (ds ++ rest))) = some (ds ++ rest) := rfl
  have fields (fuel : Nat) :
      readFields (fuel + 2) room [] (0x22 :: 0x6e :: 0x22 :: 0x3a :: (ds ++ rest)) =
        .error (.beyond (.integerTooLong ds.length)) := by
    simp only [readFields, if_pos quote, key, colon, overlong.skipSpace,
      overlong.readValue ends fuel room, bind, Except.bind]
  have filled :
      behind? '\x7d' (Json.skipSpace (0x22 :: 0x6e :: 0x22 :: 0x3a :: (ds ++ rest))) = none := rfl
  have object (fuel : Nat) :
      Json.readValue (fuel + 3) (room + 1)
          (0x7b :: 0x22 :: 0x6e :: 0x22 :: 0x3a :: (ds ++ rest)) =
        .error (.beyond (.integerTooLong ds.length)) := by
    rw [Json.readValue, if_neg (by decide), if_pos brace, if_neg (Nat.succ_ne_zero room), filled,
      Nat.add_sub_cancel, skipSpace_cons rfl, fields]
    rfl
  have fuel : 2 * ((ds ++ rest).length + 1 + 1 + 1 + 1 + 1) + 2 =
      (2 * (ds ++ rest).length + 9) + 3 := by omega
  rw [Json.read, skipSpace_cons rfl]
  simp only [List.length_cons]
  rw [fuel, object]
  rfl

end Overlong

end Json

namespace Http

/-! ### Bodies of requests -/

section

variable {p : Platform} {r : Request}

/-- The body of a request that bears JSON is read, if there is one. -/
theorem Request.content?_json (given : r.body ≠ []) (json : r.bearsJson p = true) :
    r.content? p = (readBody p r.body).map some := by
  rw [content?, if_neg (mt List.isEmpty_iff.mp given), if_pos json]

/-- The body of a request that bears something else is left as it is. -/
theorem Request.content?_other (given : r.body ≠ []) (other : r.bearsJson p = false) :
    r.content? p = .ok (some (.bytes r.body)) := by
  rw [content?, if_neg (mt List.isEmpty_iff.mp given), other, if_neg Bool.false_ne_true]

/-- A text is no body if it is JSON that no value is made of. -/
theorem readBody_beyond {s : List Char} {e : Error} (ascii : ∀ c ∈ s, Text.IsAscii c)
    (beyond : Json.read p.jsonRoom (s.map Char.toNat) = .error (.beyond e)) :
    readBody p (Text.bytesOf s) = .error .unreadable := by
  rw [readBody, Text.decode?_bytesOf ascii]
  simp only [beyond]

end

end Http

end TableTalk
