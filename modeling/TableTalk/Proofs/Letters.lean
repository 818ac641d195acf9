import TableTalk.Text.WordChar
import TableTalk.Proofs.Keywords

/-!
# TableTalk.Proofs.Letters

Small letters of ASCII, and texts whose lower-case form consists of ASCII characters. Such a text
has no other way to its lower-case form than letter by letter.
-/

namespace TableTalk.Text

/-- Whether a character is a small letter of ASCII. -/
def isLetter (c : Char) : Bool :=
  'a' ≤ c && c ≤ 'z'

/-- The small letters of ASCII. -/
def letters : List Char :=
  "abcdefghijklmnopqrstuvwxyz".toList

theorem toNat_of_isLetter {c : Char} (letter : isLetter c = true) :
    97 ≤ c.toNat ∧ c.toNat ≤ 122 := by
  simpa [isLetter, Char.le_def, UInt32.le_iff_toNat_le] using letter

theorem mem_letters {c : Char} (letter : isLetter c = true) : c ∈ letters := by
  obtain ⟨low, high⟩ := toNat_of_isLetter letter
  have all : ∀ i < 26, Char.ofNat (97 + i) ∈ letters := by decide
  have here := all (c.toNat - 97) (by omega)
  rwa [Nat.add_sub_cancel' low, Char.ofNat_toNat] at here

theorem isBlank_of_isLetter {c : Char} (letter : isLetter c = true) : isBlank c = false := by
  have all : ∀ c ∈ letters, isBlank c = false := by decide
  exact all c (mem_letters letter)

theorem isLetter_of_isBlank {c : Char} (blank : isBlank c = true) : isLetter c = false := by
  by_contra letter
  rw [isBlank_of_isLetter (by simpa using letter)] at blank
  cases blank

theorem isWordChar_of_isLetter {c : Char} (letter : isLetter c = true) : isWordChar c = true := by
  have all : ∀ c ∈ letters, isWordChar c = true := by decide
  exact all c (mem_letters letter)

theorem ne_of_isLetter {c d : Char} (letter : isLetter c = true) (other : isLetter d = false) :
    c ≠ d := by
  rintro rfl
  rw [letter] at other
  cases other

/-- No blank is the capital form of a letter. -/
theorem isBlank_of_isLetter_toLower {c : Char} (letter : isLetter c.toLower = true) :
    isBlank c = false := by
  have apart : ∀ b ∈ blanks, isLetter b.toLower = false := by decide
  exact isBlank_eq_false_of apart letter

/-! ### Lower case -/

theorem lowerAfter_of_ascii {s : List Char} (ascii : ∀ c ∈ s, c.toNat < 128) (before : Bool) :
    lowerAfter before s = s.map Char.toLower := by
  induction s generalizing before with
  | nil => rfl
  | cons c r ih =>
    have here : c.toNat < 128 := ascii c List.mem_cons_self
    have noSigma : c ≠ 'Σ' := by
      rintro rfl
      exact absurd here (by decide)
    have noDot : c ≠ 'İ' := by
      rintro rfl
      exact absurd here (by decide)
    rw [lowerAfter, if_neg noSigma, lowerAlone, if_neg noDot, lowerChar, if_pos here,
      ih fun d member => ascii d (List.mem_cons_of_mem _ member)]
    rfl

/-- A text that spells ASCII characters, whatever the case of its letters, has them as its
lower-case form. -/
theorem lower_eq_of_map_toLower {s t : List Char} (spelled : s.map Char.toLower = t)
    (ascii : ∀ c ∈ t, c.toNat < 128) : lower s = t := by
  rw [← spelled]
  refine lowerAfter_of_ascii (fun c member => ?_) false
  have small : c.toLower.toNat < 128 := ascii _ (spelled ▸ List.mem_map_of_mem member)
  rw [toNat_toLower] at small
  split at small <;> omega

/-! ### Lower case on both sides of a space -/

theorem meetsCased_append_space (x y : List Char) :
    meetsCased (x ++ ' ' :: y) = meetsCased x := by
  induction x with
  | nil =>
    have caseless : meetsCased (' ' :: y) = false := by
      rw [meetsCased, if_neg (by decide)]
      decide
    exact caseless
  | cons c x ih => rw [List.cons_append, meetsCased, meetsCased, ih]

theorem lowerAfter_append_space (before : Bool) (x y : List Char) :
    lowerAfter before (x ++ ' ' :: y) = lowerAfter before x ++ ' ' :: lower y := by
  induction x generalizing before with
  | nil =>
    have solid : isPassedOver ' ' = false := by decide
    have caseless : isCased ' ' = false := by decide
    simp [lowerAfter, lower, solid, caseless, lowerAlone, lowerChar]
  | cons c x ih =>
    rw [List.cons_append, lowerAfter, lowerAfter, ih, meetsCased_append_space, List.append_assoc]

/-- A space keeps the letters on its two sides apart. -/
theorem lower_append_space (x y : List Char) :
    lower (x ++ ' ' :: y) = lower x ++ ' ' :: lower y :=
  lowerAfter_append_space false x y

end TableTalk.Text
