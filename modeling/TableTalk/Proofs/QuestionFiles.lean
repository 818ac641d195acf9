import TableTalk.Evaluation.Question
import TableTalk.Proofs.JsonFronts
import TableTalk.Proofs.JsonText
import TableTalk.Proofs.Words

/-!
# TableTalk.Proofs.QuestionFiles

Files of questions, one JSON text a line.

## Main result

- `Evaluation.questionsOf_lines`: a file is read back as the values that its texts write, wherever
  blank lines stand between them, exactly if no text holds one of the characters that end a line
  besides the line feed; otherwise it is refused as no JSON.

## Proof strategy

Of the lines of a file only those count that are not blank, and these split at each end of a line
(`Text.solidLines_append`). A text without such an end is a line (`solidLines_of_unbroken`). The
other texts break off where a string holds one, and what is before it is no JSON
(`Json.read_front`).
-/

namespace TableTalk

namespace Text

/-! ### Lines that are not blank -/

/-- What stands between the ends of lines of a text, where it is not blank. -/
def solidLines (s : List Char) : List (List Char) :=
  (s.splitOnP lineEnds.contains).filter fun line => !(trim line).isEmpty

theorem isEmpty_trim_iff (s : List Char) :
    (trim s).isEmpty = true ↔ ∀ c ∈ s, isBlank c = true := by
  rw [List.isEmpty_iff, trim_eq_nil_iff, words_eq_nil_iff]

theorem solidLines_nil : solidLines [] = [] := by
  simp [solidLines, List.splitOnP_nil, trim, trimEnd]

theorem solidLines_append (s t : List Char) {c : Char} (ends : c ∈ lineEnds) :
    solidLines (s ++ c :: t) = solidLines s ++ solidLines t := by
  have stop : lineEnds.contains c = true := List.contains_iff_mem.mpr ends
  rw [solidLines, List.splitOnP_append_cons s t stop, List.filter_append]
  rfl

-- The last line of a text is one of its lines unless it is empty.
theorem splitOnP_lineEnds (s : List Char) :
    s.splitOnP lineEnds.contains = linesOf s ∨
      s.splitOnP lineEnds.contains = linesOf s ++ [[]] := by
  induction s with
  | nil => exact .inr List.splitOnP_nil
  | cons c s ih =>
    rw [List.splitOnP_cons_eq_if_modifyHead, linesOf]
    by_cases ends : lineEnds.contains c = true
    · rw [if_pos ends, if_pos ends]
      exact ih.imp (congrArg ([] :: ·)) (congrArg ([] :: ·))
    · rw [if_neg ends, if_neg ends]
      rcases ih with same | same
      · have some : linesOf s ≠ [] := same ▸ List.splitOnP_ne_nil _ s
        obtain ⟨line, rest, lines⟩ := List.exists_cons_of_ne_nil some
        rw [same, lines]
        exact .inl rfl
      · rw [same]
        cases linesOf s with
        | nil => exact .inl rfl
        | cons line rest => exact .inr rfl

theorem solidLines_eq (s : List Char) :
    (linesOf s).filter (fun line => !(trim line).isEmpty) = solidLines s := by
  rw [solidLines]
  rcases splitOnP_lineEnds s with same | same
  · rw [same]
  · rw [same, List.filter_append]
    exact (List.append_nil _).symm

-- The induction carries the text before the place, as a line may begin there.
theorem solidLines_append_unixLineEnds (before s : List Char) :
    solidLines (before ++ unixLineEnds s) = solidLines (before ++ s) := by
  have feed : '\n' ∈ lineEnds := by decide
  have carriage : '\r' ∈ lineEnds := by decide
  fun_induction unixLineEnds s generalizing before with
  | case1 => rfl
  | case2 s ih =>
    have empty := solidLines_append [] s feed
    rw [List.nil_append] at empty
    rw [solidLines_append _ _ feed, solidLines_append _ _ carriage, empty, solidLines_nil]
    exact congrArg _ (ih [])
  | case3 s other ih =>
    rw [solidLines_append _ _ feed, solidLines_append _ _ carriage]
    exact congrArg _ (ih [])
  | case4 c s _ _ ih => simpa using ih (before ++ [c])

theorem subset_of_mem_splitOnP {p : Char → Bool} {s line : List Char}
    (member : line ∈ s.splitOnP p) : line ⊆ s := by
  induction s generalizing line with
  | nil =>
    rw [List.splitOnP_nil, List.mem_singleton] at member
    rw [member]
    exact List.nil_subset []
  | cons a s ih =>
    rw [List.splitOnP_cons_eq_if_modifyHead] at member
    split at member
    · rcases List.mem_cons.mp member with rfl | member
      · exact List.nil_subset _
      · exact List.subset_cons_of_subset a (ih member)
    · obtain ⟨first, rest, pieces⟩ := List.exists_cons_of_ne_nil (List.splitOnP_ne_nil p s)
      rw [pieces] at member ih
      rcases List.mem_cons.mp member with rfl | member
      · exact List.cons_subset_cons a (ih List.mem_cons_self)
      · exact List.subset_cons_of_subset a (ih (List.mem_cons_of_mem _ member))

theorem solidLines_of_blank {s : List Char} (blank : ∀ c ∈ s, isBlank c = true) :
    solidLines s = [] := by
  refine List.filter_eq_nil_iff.mpr fun line member => ?_
  have empty : (trim line).isEmpty = true :=
    (isEmpty_trim_iff line).mpr fun c inside => blank c (subset_of_mem_splitOnP member inside)
  simp [empty]

/-- A text without an end of a line in it. -/
def Unbroken (s : List Char) : Prop :=
  ∀ c ∈ s, c ∉ lineEnds

theorem solidLines_of_unbroken {s : List Char} (unbroken : Unbroken s)
    (solid : ∃ c ∈ s, isBlank c = false) : solidLines s = [s] := by
  have whole : s.splitOnP lineEnds.contains = [s] :=
    List.splitOnP_eq_singleton fun c inside => by simpa using unbroken c inside
  have full : (trim s).isEmpty = false := by
    obtain ⟨c, inside, solid⟩ := solid
    rw [Bool.eq_false_iff, ne_eq, isEmpty_trim_iff]
    intro blank
    rw [blank c inside] at solid
    cases solid
  simp [solidLines, whole, full]

/-- A text that is broken up is so at a first end of a line. -/
theorem exists_front_of_broken {s : List Char} (broken : ¬Unbroken s) :
    ∃ x c t, s = x ++ c :: t ∧ Unbroken x ∧ c ∈ lineEnds := by
  induction s with
  | nil => exact absurd (fun c inside => absurd inside List.not_mem_nil) broken
  | cons a s ih =>
    by_cases ends : a ∈ lineEnds
    · exact ⟨[], a, s, rfl, fun c inside => absurd inside List.not_mem_nil, ends⟩
    · have rest : ¬Unbroken s := fun unbroken =>
        broken fun c inside => by
          rcases List.mem_cons.mp inside with rfl | inside
          · exact ends
          · exact unbroken c inside
      obtain ⟨x, c, t, rfl, front, stop⟩ := ih rest
      refine ⟨a :: x, c, t, rfl, fun d inside => ?_, stop⟩
      rcases List.mem_cons.mp inside with rfl | inside
      · exact ends
      · exact front d inside

/-! ### Files -/

/-- Lines that hold texts: each text is a line of its own, and the other lines are blank. -/
inductive Holds : List (List Char) → List (List Char) → Prop
  | done : Holds [] []
  | blank {line : List Char} {lines texts : List (List Char)}
    (blank : ∀ c ∈ line, isBlank c = true) (rest : Holds lines texts) : Holds (line :: lines) texts
  | text (text : List Char) {lines texts : List (List Char)} (rest : Holds lines texts) :
    Holds (text :: lines) (text :: texts)

theorem solidLines_join (lines : List (List Char)) :
    solidLines (join ['\n'] lines) = lines.flatMap solidLines := by
  have feed : lineEnds.contains '\n' = true := by decide
  by_cases some : lines = []
  · rw [some]
    exact solidLines_nil
  · rw [solidLines, splitOnP_join feed some, List.filter_flatMap]
    rfl

theorem Holds.flatMap_solidLines {lines texts : List (List Char)} (holds : Holds lines texts) :
    lines.flatMap solidLines = texts.flatMap solidLines := by
  induction holds with
  | done => rfl
  | blank blank _ ih => rw [List.flatMap_cons, solidLines_of_blank blank, List.nil_append, ih]
  | text text _ ih => rw [List.flatMap_cons, List.flatMap_cons, ih]

/-- A text on one line, as far as line feeds and carriage returns end lines. -/
def OneLine (s : List Char) : Prop :=
  '\n' ∉ s ∧ '\r' ∉ s

theorem OneLine.foreign {x t : List Char} {c : Char} (oneLine : OneLine (x ++ c :: t))
    (ends : c ∈ lineEnds) : Json.Foreign c := by
  have known : ∀ c ∈ lineEnds, c = '\n' ∨ c = '\r' ∨ isBlank c = true ∧ Json.isSpace c = false := by
    decide
  have inside : c ∈ x ++ c :: t := by simp
  rcases known c ends with rfl | rfl | ⟨blank, solid⟩
  · exact absurd inside oneLine.1
  · exact absurd inside oneLine.2
  · exact ⟨blank, solid⟩

end Text

namespace Evaluation

open Text

variable {room : Nat}

theorem questionsOf_eq (content : List Char) :
    questionsOf room (.ofList content) = lineValues room (solidLines content) := by
  have same := solidLines_append_unixLineEnds [] content
  rw [questionsOf, String.toList_ofList, fileLines, solidLines_eq]
  exact congrArg (lineValues room) same

theorem lineValues_cons {text : List Char} {v : Value} (read : Json.read room text = .ok v)
    (rest : List (List Char)) :
    lineValues room (text :: rest) = (lineValues room rest).map (v :: ·) := by
  have value : lineValue room text = .ok v := by
    rw [lineValue, read]
    rfl
  rw [lineValues, value]
  cases lineValues room rest <;> rfl

theorem solidLines_of_read {text : List Char} {v : Value} (read : Json.read room text = .ok v)
    (unbroken : Unbroken text) : solidLines text = [text] := by
  obtain ⟨a, r, front, solid⟩ := Json.exists_solid_of_read read
  exact solidLines_of_unbroken unbroken (Json.exists_mem_of_skipSpace front solid)

/-- A text that is broken up is refused at the first of its lines. -/
theorem lineValues_broken {text : List Char} {v : Value} (read : Json.read room text = .ok v)
    (oneLine : OneLine text) (broken : ¬Unbroken text) (rest : List (List Char)) :
    lineValues room (solidLines text ++ rest) = .error .malformedJson := by
  obtain ⟨x, c, t, rfl, unbroken, ends⟩ := exists_front_of_broken broken
  have foreign := oneLine.foreign ends
  have front : solidLines x = [x] :=
    solidLines_of_unbroken unbroken (Json.exists_solid_of_read_append foreign read)
  obtain ⟨place, wrong⟩ := Json.read_front foreign read
  rw [solidLines_append x t ends, front, List.singleton_append, List.cons_append, lineValues,
    lineValue, wrong]
  rfl

section

variable {texts : List (List Char)} {values : List Value}

theorem lineValues_of_unbroken
    (read : List.Forall₂ (fun text v => Json.read room text = .ok v) texts values)
    (unbroken : ∀ text ∈ texts, Unbroken text) :
    lineValues room (texts.flatMap solidLines) = .ok values := by
  induction read with
  | nil => rfl
  | cons first others ih =>
    obtain ⟨whole, unbroken⟩ := List.forall_mem_cons.mp unbroken
    rw [List.flatMap_cons, solidLines_of_read first whole, List.singleton_append,
      lineValues_cons first, ih unbroken]
    rfl

theorem lineValues_of_broken
    (read : List.Forall₂ (fun text v => Json.read room text = .ok v) texts values)
    (oneLine : ∀ text ∈ texts, OneLine text) (broken : ∃ text ∈ texts, ¬Unbroken text) :
    lineValues room (texts.flatMap solidLines) = .error .malformedJson := by
  induction read with
  | nil => simp at broken
  | @cons text v texts values first others ih =>
    obtain ⟨short, oneLine⟩ := List.forall_mem_cons.mp oneLine
    by_cases whole : Unbroken text
    · have later : ∃ text ∈ texts, ¬Unbroken text := by simpa [whole] using broken
      rw [List.flatMap_cons, solidLines_of_read first whole, List.singleton_append,
        lineValues_cons first, ih oneLine later]
      rfl
    · exact lineValues_broken first short whole _

/-- A file that holds JSON texts, one a line and blank lines anywhere, is read as the values that
the texts write, in order, as long as no text holds one of the characters that end a line besides
the line feed and the carriage return. JSON admits three of them in a string; a file with one is
refused as no JSON. A line feed at the end of the file is one more blank line. -/
theorem questionsOf_lines {lines : List (List Char)} (holds : Holds lines texts)
    (oneLine : ∀ text ∈ texts, OneLine text)
    (read : List.Forall₂ (fun text v => Json.read room text = .ok v) texts values) :
    (questionsOf room (.ofList (join ['\n'] lines)) = .ok values ↔ ∀ text ∈ texts, Unbroken text) ∧
    ((∃ text ∈ texts, ¬Unbroken text) →
      questionsOf room (.ofList (join ['\n'] lines)) = .error .malformedJson) := by
  rw [questionsOf_eq, solidLines_join, holds.flatMap_solidLines]
  refine ⟨⟨fun all => ?_, lineValues_of_unbroken read⟩, lineValues_of_broken read oneLine⟩
  by_contra some
  have broken : ∃ text ∈ texts, ¬Unbroken text := by simpa using some
  rw [lineValues_of_broken read oneLine broken] at all
  cases all

end

/-- A question as JSON, on one line. -/
def written (question : String) : List Char :=
  Json.write (.record [("question", .text question)])

theorem read_written (question : String) :
    Json.read 1 (written question) = .ok (.record [("question", .text question)]) :=
  Json.read_write (.record (by simp) (by simpa using .text question))

/-- Two questions, with blank lines between them and a line feed at the end. -/
theorem questionsOf_lines_two :
    let texts := [written "list everything", written "total \"sales\""]
    let lines := [[], written "list everything", " \t\r".toList, [], written "total \"sales\"", []]
    Holds lines texts ∧ (∀ text ∈ texts, OneLine text) ∧
      questionsOf 1 (.ofList (join ['\n'] lines)) =
        .ok [.record [("question", .text "list everything")],
          .record [("question", .text "total \"sales\"")]] := by
  intro texts lines
  have holds : Holds lines texts :=
    .blank (by decide) (.text _ (.blank (by decide) (.blank (by decide) (.text _
      (.blank (by decide) .done)))))
  have oneLine : ∀ text ∈ texts, OneLine text := by
    simp only [texts, OneLine, List.forall_mem_cons]
    decide
  have unbroken : ∀ text ∈ texts, Unbroken text := by
    simp only [texts, Unbroken, List.forall_mem_cons]
    decide
  have read : List.Forall₂ (fun text v => Json.read 1 text = .ok v) texts
      [.record [("question", .text "list everything")],
        .record [("question", .text "total \"sales\"")]] :=
    .cons (read_written _) (.cons (read_written _) .nil)
  exact ⟨holds, oneLine, (questionsOf_lines holds oneLine read).1.mpr unbroken⟩

/-- A question with a line separator, which JSON admits in a string and a file does not. -/
theorem questionsOf_line_separator :
    let question := "show\u2028sales"
    Json.read 1 (written question) = .ok (.record [("question", .text question)]) ∧
      OneLine (written question) ∧
      written question = "\x7b\"question\":\"show\u2028sales\"\x7d".toList ∧
      questionsOf 1 (.ofList (written question)) = .error .malformedJson := by
  intro question
  have oneLine : OneLine (written question) := by
    simp only [OneLine]
    decide
  have broken : ¬Unbroken (written question) := by
    simp only [Unbroken]
    decide
  refine ⟨read_written question, oneLine, by decide, ?_⟩
  rw [questionsOf_eq, ← List.append_nil (solidLines (written question))]
  exact lineValues_broken (read_written question) oneLine broken []

end Evaluation

end TableTalk
