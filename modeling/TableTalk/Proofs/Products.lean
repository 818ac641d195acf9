import TableTalk.Question.Product
import TableTalk.Proofs.Letters

/-!
# TableTalk.Proofs.Products

The product of a question, word by word. If the names of a vocabulary consist of word characters, no
match begins within a word or between two words, so that the search can be followed from word to
word: each is a name, a name with an `s` behind it, or passed over.

## Main results

- `firstName?_run`: what the search does at a word.
- `firstName?_gap`: what it does at any other character.
-/

namespace TableTalk.Question

open Text

/-- A text of word characters, at least one. -/
structure IsRun (w : List Char) : Prop where
  nonempty : w ≠ []
  chars : ∀ c ∈ w, isWordChar c = true

/-- The text does not begin with a word character. -/
def EndsRun (t : List Char) : Prop :=
  ∀ c ∈ t.head?, isWordChar c = false

/-- A word is a name, in singular or in plural. -/
def Fits (name w : List Char) : Prop :=
  w = name ∨ w = name ++ ['s']

instance (name w : List Char) : Decidable (Fits name w) :=
  inferInstanceAs (Decidable (_ ∨ _))

theorem IsRun.begins {w : List Char} (run : IsRun w) :
    ∃ c r, w = c :: r ∧ isWordChar c = true := by
  obtain ⟨c, r, rfl⟩ := List.exists_cons_of_ne_nil run.nonempty
  exact ⟨c, r, rfl, run.chars c List.mem_cons_self⟩

theorem IsRun.getLast? {w : List Char} (run : IsRun w) :
    ∃ c, w.getLast? = some c ∧ isWordChar c = true := by
  refine ⟨_, List.getLast?_eq_some_getLast run.nonempty, run.chars _ (List.getLast_mem _)⟩

theorem EndsRun.any {t : List Char} (ends : EndsRun t) : t.head?.any isWordChar = false := by
  cases t with
  | nil => rfl
  | cons c t => exact ends c rfl

/-! ### A name at a word -/

-- A name at the front of a word is the front of the word.
theorem exists_of_append_eq_append {name w t r : List Char} (run : IsRun name)
    (chars : ∀ c ∈ w, isWordChar c = true) (ends : EndsRun t) (cut : w ++ t = name ++ r) :
    ∃ u, w = name ++ u ∧ r = u ++ t := by
  -- The word and the name are both runs at the front, and the word is the longest.
  have front := takeWhile_append_stop chars ends
  rw [cut, List.takeWhile_append_of_pos run.chars] at front
  refine ⟨r.takeWhile isWordChar, front.symm, ?_⟩
  rw [← front, List.append_assoc] at cut
  exact (List.append_cancel_left cut).symm

theorem isBoundary_run {before : Option Char} {c : Char} {r : List Char}
    (outside : before.any isWordChar = false) (inside : isWordChar c = true) :
    isBoundary before (c :: r) = true := by
  simp [isBoundary, outside, inside]

/-- A name stands at a word exactly if the word is the name, in singular or in plural. -/
theorem standsAt_run {before : Option Char} {name w t : List Char} (named : IsRun name)
    (chars : ∀ c ∈ w, isWordChar c = true) (ends : EndsRun t) :
    standsAt before (w ++ t) name = decide (Fits name w) := by
  rw [Bool.eq_iff_iff, decide_eq_true_iff]
  obtain ⟨last, final, lastChar⟩ := named.getLast?
  have letterS : isWordChar 's' = true := isWordChar_of_isLetter (by decide)
  cases after : afterKeyword? (· == ·) name (w ++ t) with
  | none =>
    have noPrefix (r : List Char) : w ++ t ≠ name ++ r := by
      intro cut
      rw [(afterKeyword?_beq_iff _ _ _).mpr cut] at after
      cases after
    simp only [standsAt, after, Bool.false_eq_true, false_iff]
    rintro (rfl | rfl)
    · exact noPrefix t rfl
    · exact noPrefix ('s' :: t) (by simp)
  | some r =>
    have cut : w ++ t = name ++ r := (afterKeyword?_beq_iff _ _ _).mp after
    obtain ⟨u, rfl, rfl⟩ := exists_of_append_eq_append named chars ends cut
    simp only [standsAt, after, final, Option.some_or]
    -- What is left of the word decides: nothing, an `s`, or anything else.
    rcases u with _ | ⟨c, _ | ⟨d, u⟩⟩
    · simp [isBoundary, ends.any, lastChar, Fits]
    · have char : isWordChar c = true := chars c (by simp)
      by_cases plural : c = 's'
      · subst plural
        simp [isBoundary, ends.any, letterS, Fits]
      · simp [isBoundary, char, lastChar, Fits, plural]
    · have char : isWordChar c = true := chars c (by simp)
      have char' : isWordChar d = true := chars d (by simp)
      by_cases plural : c = 's'
      · subst plural
        simp [isBoundary, char', letterS, lastChar, Fits]
      · simp [isBoundary, char, lastChar, Fits, plural]

/-! ### The search -/

/-- All names of a vocabulary consist of word characters. -/
def WordNames (names : List (List Char)) : Prop :=
  ∀ name ∈ names, IsRun name

/-- The first name of a vocabulary that a word is. -/
def nameOf? (names : List (List Char)) (w : List Char) : Option (List Char) :=
  names.find? fun name => Fits name w

theorem nameAt?_run {names : List (List Char)} (wordy : WordNames names) {before : Option Char}
    {w t : List Char} (outside : before.any isWordChar = false) (run : IsRun w) (ends : EndsRun t) :
    nameAt? names before (w ++ t) = nameOf? names w := by
  have boundary : isBoundary before (w ++ t) = true := by
    obtain ⟨c, r, rfl, char⟩ := run.begins
    exact isBoundary_run outside char
  rw [nameAt?, if_pos boundary, nameOf?]
  refine List.find?_congr fun name member => ?_
  exact standsAt_run (wordy name member) run.chars ends

theorem nameAt?_inside (names : List (List Char)) {b c : Char} {r : List Char}
    (char : isWordChar b = true) (char' : isWordChar c = true) :
    nameAt? names (some b) (c :: r) = none := by
  simp [nameAt?, isBoundary, char, char']

theorem nameAt?_gap {names : List (List Char)} (wordy : WordNames names) (before : Option Char)
    {t : List Char} (ends : EndsRun t) : nameAt? names before t = none := by
  have none : ∀ name ∈ names, ¬standsAt before t name = true := by
    intro name member
    have noFit : ¬Fits name [] := by
      have some := (wordy name member).nonempty
      simp [Fits, some.symm]
    have stands : standsAt before ([] ++ t) name = decide (Fits name []) :=
      standsAt_run (wordy name member) (by simp) ends
    rw [List.nil_append, decide_eq_false noFit] at stands
    simp [stands]
  rw [nameAt?, List.find?_eq_none.mpr none, ite_self]

theorem firstName?_inside (names : List (List Char)) {b : Char} {w t : List Char}
    (char : isWordChar b = true) (chars : ∀ c ∈ w, isWordChar c = true) :
    firstName? names (some b) (w ++ t) = firstName? names ((b :: w).getLast?) t := by
  induction w generalizing b with
  | nil => rfl
  | cons c w ih =>
    have char' : isWordChar c = true := chars c List.mem_cons_self
    rw [List.cons_append, firstName?, nameAt?_inside names char char', Option.none_or,
      ih char' fun d member => chars d (List.mem_cons_of_mem _ member), List.getLast?_cons_cons]

-- At a word the search ends if the word is a name, and else goes on behind it.
theorem firstName?_run {names : List (List Char)} (wordy : WordNames names) {before : Option Char}
    {w t : List Char} (outside : before.any isWordChar = false) (run : IsRun w) (ends : EndsRun t) :
    firstName? names before (w ++ t) = (nameOf? names w).or (firstName? names w.getLast? t) := by
  have here := nameAt?_run wordy outside run ends
  obtain ⟨c, r, rfl, char⟩ := run.begins
  rw [List.cons_append] at here ⊢
  rw [firstName?, here,
    firstName?_inside names char fun d member => run.chars d (List.mem_cons_of_mem _ member)]

-- Any other character is passed over.
theorem firstName?_gap {names : List (List Char)} (wordy : WordNames names) (before : Option Char)
    {c : Char} (gap : isWordChar c = false) (t : List Char) :
    firstName? names before (c :: t) = firstName? names (some c) t := by
  have ends : EndsRun (c :: t) := by
    rintro d ⟨⟩
    exact gap
  rw [firstName?, nameAt?_gap wordy before ends, Option.none_or]

/-! ### Texts without names -/

/-- No name is found in a text that stands at the beginning or behind another character than one of
a word. -/
def Nameless (names : List (List Char)) (s : List Char) : Prop :=
  ∀ before : Option Char, before.any isWordChar = false → firstName? names before s = none

/-- No name is found in a text behind a word, which ends there. -/
structure NamelessBehind (names : List (List Char)) (t : List Char) : Prop where
  ends : EndsRun t
  none : ∀ before, firstName? names before t = none

theorem NamelessBehind.nameless {names : List (List Char)} {t : List Char}
    (behind : NamelessBehind names t) : Nameless names t :=
  fun before _ => behind.none before

theorem namelessBehind_nil {names : List (List Char)} (wordy : WordNames names) :
    NamelessBehind names [] := by
  have ends : EndsRun [] := by
    rintro c ⟨⟩
  exact ⟨ends, fun before => nameAt?_gap wordy before ends⟩

theorem Nameless.gap {names : List (List Char)} (wordy : WordNames names) {c : Char}
    {t : List Char} (rest : Nameless names t) (gap : isWordChar c = false) :
    NamelessBehind names (c :: t) := by
  refine ⟨?_, fun before => ?_⟩
  · rintro d ⟨⟩
    exact gap
  · rw [firstName?_gap wordy before gap]
    exact rest (some c) gap

theorem NamelessBehind.run {names : List (List Char)} (wordy : WordNames names) {w t : List Char}
    (behind : NamelessBehind names t) (run : IsRun w) (other : nameOf? names w = .none) :
    Nameless names (w ++ t) := by
  intro before outside
  rw [firstName?_run wordy outside run behind.ends, other, Option.none_or]
  exact behind.none _

end TableTalk.Question
