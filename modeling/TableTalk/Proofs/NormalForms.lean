import TableTalk.Proofs.Statements

/-!
# TableTalk.Proofs.NormalForms

The normal form of a text, on which the grammar and the description of statements rest.

## Main result

- `Service.collapse_laws`: the normal form has the words of its text and is its own normal form; it
  is spaced evenly; trimming does not show in it; it is empty exactly if the trimmed text is; and
  texts with the same words are the same statement and are described in the same way.

## Proof strategy

The normal form of a text depends on its words alone (`Text.collapse_eq_of_words_eq`), and has them
(`Text.words_collapse`). How it is spaced is read off its blanks one by one (`Text.IsNormal`).
-/

namespace TableTalk

namespace Text

/-- No blank stands at either end or beside another one, and each is a space. -/
structure EvenlySpaced (s : List Char) : Prop where
  front : ∀ c ∈ s.head?, isBlank c = false
  back : ∀ c ∈ s.getLast?, isBlank c = false
  apart : ∀ x a b y, s = x ++ a :: b :: y → isBlank a = true → isBlank b = false
  spaces : ∀ c ∈ s, isBlank c = true → c = ' '

theorem IsNormal.evenlySpaced {s : List Char} (normal : IsNormal s) : EvenlySpaced s where
  front := by
    intro c first
    by_contra blank
    obtain ⟨r, cut⟩ := List.head?_eq_some_iff.mp first
    obtain ⟨-, behind, -⟩ := normal [] c r cut (by simpa using blank)
    exact behind rfl
  back := by
    intro c last
    by_contra blank
    obtain ⟨x, cut⟩ := List.getLast?_eq_some_iff.mp last
    obtain ⟨-, -, d, r, next, -⟩ := normal x c [] cut (by simpa using blank)
    cases next
  apart := by
    intro x a b y cut blank
    obtain ⟨-, -, c, r, next, solid⟩ := normal x a (b :: y) cut blank
    rwa [(List.cons.inj next).1]
  spaces := by
    intro c member blank
    obtain ⟨x, y, cut⟩ := List.append_of_mem member
    exact (normal x c y cut blank).1

/-- The normal form is empty exactly if trimming leaves nothing. -/
theorem collapse_eq_nil_iff (s : List Char) : collapse s = [] ↔ trim s = [] := by
  rw [trim_eq_nil_iff]
  constructor
  · intro empty
    rw [← words_collapse, empty, words_nil]
  · intro none
    rw [collapse, none]
    rfl

end Text

namespace Statement

variable {t u : String}

theorem accepts_of_words_eq (same : Text.words u.toList = Text.words t.toList) :
    accepts u = accepts t := by
  rw [accepts, Text.collapse_eq_of_words_eq same, accepts]

theorem kind_of_words_eq (same : Text.words u.toList = Text.words t.toList) :
    Kind.ofText u = Kind.ofText t := by
  rw [Kind.ofText, Text.collapse_eq_of_words_eq same, Kind.ofText]

end Statement

namespace Service

open Text (Reads EvenlySpaced collapse trim)

theorem describe_of_words_eq {t u : String}
    (same : Text.words u.toList = Text.words t.toList) : describe u = describe t := by
  rw [describe, Statement.kind_of_words_eq same, describe]

/-- The laws of the normal form: it keeps the words and nothing else of a text, and the grammar and
the description look at nothing else. -/
theorem collapse_laws (t : String) :
    (∀ ws, Reads (collapse t.toList) ws ↔ Reads t.toList ws) ∧
    collapse (collapse t.toList) = collapse t.toList ∧
    EvenlySpaced (collapse t.toList) ∧
    '\n' ∉ collapse t.toList ∧
    collapse (trim t.toList) = collapse t.toList ∧
    (collapse t.toList = [] ↔ normalise (.text t) = "") ∧
    ∀ (u : String) (ws : List (List Char)), Reads t.toList ws → Reads u.toList ws →
      Statement.accepts u = Statement.accepts t ∧
      (describe u = describe t ∧ (describe u).outcome = .ok (Statement.Kind.ofText t)) := by
  have normal := Text.isNormal_collapse t.toList
  refine ⟨fun ws => ?_, ?_, normal.evenlySpaced, normal.oneLine, ?_, ?_, fun u ws ht hu => ?_⟩
  · rw [Text.reads_iff, Text.reads_iff, Text.words_collapse]
  · exact Text.collapse_eq_of_words_eq (Text.words_collapse _)
  · exact Text.collapse_eq_of_words_eq (Text.words_trim _)
  · have trimmed : normalise (.text t) = .ofList (trim t.toList) := normalise_ofText? (some t)
    rw [Text.collapse_eq_nil_iff, trimmed, ← String.toList_inj, String.toList_ofList]
    rfl
  · have same : Text.words u.toList = Text.words t.toList := hu.words_eq.trans ht.words_eq.symm
    refine ⟨Statement.accepts_of_words_eq same, describe_of_words_eq same, ?_⟩
    rw [outcome_describe, Statement.kind_of_words_eq same]

/-- A selection and the same one in two lines are one statement. -/
theorem collapse_laws_two_lines :
    Reads "SELECT a FROM t".toList (["SELECT", "a", "FROM", "t"].map String.toList) ∧
      Reads "\tSELECT  a\nFROM\u00a0t\r\n".toList
        (["SELECT", "a", "FROM", "t"].map String.toList) ∧
      Statement.accepts "\tSELECT  a\nFROM\u00a0t\r\n" = Statement.accepts "SELECT a FROM t" ∧
      describe "\tSELECT  a\nFROM\u00a0t\r\n" = describe "SELECT a FROM t" := by
  have one : Reads "SELECT a FROM t".toList (["SELECT", "a", "FROM", "t"].map String.toList) :=
    (Text.reads_iff _ _).mpr (by decide)
  have two : Reads "\tSELECT  a\nFROM\u00a0t\r\n".toList
      (["SELECT", "a", "FROM", "t"].map String.toList) :=
    (Text.reads_iff _ _).mpr (by decide)
  obtain ⟨-, -, -, -, -, -, alike⟩ := collapse_laws "SELECT a FROM t"
  obtain ⟨accepted, described, -⟩ := alike _ _ one two
  exact ⟨one, two, accepted, described⟩

end Service

end TableTalk
