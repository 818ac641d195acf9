import TableTalk.Evaluation.Report
import TableTalk.Proofs.Verdicts

/-!
# TableTalk.Proofs.ReportLines

The report on an evaluation, line by line.

## Main result

- `Evaluation.report_lines`: a report consists of a head whose scores count the marks of the table,
  a line of the table for each question, and a line for each failure. Texts of the user are shown
  as they are, so that each line feed in one of them makes a line more.

## Proof strategy

A text has a line more than it has line feeds (`Text.length_splitOnP`), and lines that are joined
are split into the lines of each (`Text.splitOnP_join`). What the report says of its own has no line
feed (`plain_headLines`), so that only the texts it shows count (`sum_feeds_linesOn`).
-/

namespace TableTalk

namespace Text

theorem length_splitOnP (p : Char → Bool) (s : List Char) :
    (s.splitOnP p).length = s.countP p + 1 := by
  induction s with
  | nil => rw [List.splitOnP_nil, List.length_singleton, List.countP_nil]
  | cons c s ih =>
    rw [List.splitOnP_cons_eq_if_modifyHead, List.countP_cons]
    split <;> simp_all

theorem length_splitOn_join {lines : List (List Char)} (some : lines ≠ []) :
    ((join ['\n'] lines).splitOn '\n').length =
      lines.length + (lines.map (List.count '\n')).sum := by
  rw [List.splitOn_eq_splitOnP, splitOnP_join (by decide) some, List.length_flatMap]
  simp only [length_splitOnP, List.sum_map_add]
  simp [List.count, Nat.add_comm]

theorem splitOn_join {lines : List (List Char)} (some : lines ≠ [])
    (plain : ∀ line ∈ lines, '\n' ∉ line) : (join ['\n'] lines).splitOn '\n' = lines := by
  have whole : ∀ line ∈ lines, line.splitOnP (· == '\n') = [line] := fun line member =>
    List.splitOnP_eq_singleton fun c inside =>
      beq_eq_false_iff_ne.mpr fun feed => plain line member (feed ▸ inside)
  rw [List.splitOn_eq_splitOnP, splitOnP_join (by decide) some, List.flatMap_congr whole,
    List.flatMap_singleton']

end Text

namespace Evaluation

open Text

/-! ### Layout -/

/-- A line of a table. -/
def row (cells : List (List Char)) : List Char :=
  "| ".toList ++ join " | ".toList cells ++ " |".toList

/-- What the table shows of a verdict. -/
def cells (position : Nat) (v : Verdict) : List (List Char) :=
  [digits position, abridged v.question.display.toList, mark v.operationOk, mark v.filtersOk,
    mark v.countOk, '\x60' :: v.pseudoQuery.toList ++ ['\x60'], mark v.success]

/-- The table of verdicts, the first of them at a position. -/
def table (position : Nat) (verdicts : List Verdict) : List (List (List Char)) :=
  verdicts.mapIdx fun i v => cells (position + i) v

/-- How many rows of a table have the mark of success in a column. -/
def oks (column : Nat) (rows : List (List (List Char))) : Nat :=
  rows.countP fun cells => cells[column]? = some "OK".toList

/-- A line of the summary, with so many of the rows of a table. -/
def IsScore (title : String) (part : Nat) (rows : List (List (List Char))) (line : List Char) :
    Prop :=
  ∃ percent, line = "| ".toList ++ title.toList ++ " | **".toList ++ percent ++ "%** (".toList ++
    digits part ++ ['/'] ++ digits rows.length ++ ") |".toList

/-- What stands before the rows of a table: a summary that counts their marks, and a heading. -/
structure IsHead (rows : List (List (List Char))) (head : List (List Char)) : Prop where
  -- Columns are counted from zero: 2 to 4 show what was judged, and 6 shows success.
  size : head.length = 18
  overall : ∃ line, head[8]? = some line ∧ IsScore "Overall accuracy" (oks 6 rows) rows line
  operations : ∃ line, head[9]? = some line ∧
    IsScore "Operation correctness" (oks 2 rows) rows line
  filters : ∃ line, head[10]? = some line ∧ IsScore "Filter correctness" (oks 3 rows) rows line
  counts : ∃ line, head[11]? = some line ∧
    IsScore "Match count correctness" (oks 4 rows) rows line
  least : oks 6 rows ≤ oks 2 rows ∧ oks 6 rows ≤ oks 3 rows ∧ oks 6 rows ≤ oks 4 rows
  heading : head.drop 16 =
    ["| # | Question | Op | Filters | Count | Pseudo-SQL | Pass |".toList,
      "|---|----------|----|---------|-------|------------|------|".toList]

def failures (verdicts : List Verdict) : List Verdict :=
  verdicts.filter (!·.success)

/-- A line on a failure: the question, and the error if there is one. -/
def IsBullet (v : Verdict) (line : List Char) : Prop :=
  ∃ note, line = "- ".toList ++ v.question.display.toList ++ note ∧
    (v.error.getD "" = "" ∧ note = [] ∨ ∃ e, v.error = some e ∧
      note = " (error: \x60".toList ++ e.toList ++ "\x60)".toList)

/-- The lines on failures, one for each, or one if there are none. -/
inductive Listed : List Verdict → List (List Char) → Prop
  | none : Listed [] ["None -- all questions handled correctly.".toList]
  | each {failed : List Verdict} {bullets : List (List Char)} (some : failed ≠ [])
    (bullet : List.Forall₂ IsBullet failed bullets) : Listed failed bullets

/-- The lines of a report on verdicts. -/
inductive Layout (verdicts : List Verdict) : List (List Char) → Prop
  | intro {head bullets : List (List Char)} (isHead : IsHead (table 1 verdicts) head)
    (listed : Listed (failures verdicts) bullets) :
    Layout verdicts (head ++ (table 1 verdicts).map row ++ [[], "## Failures".toList, []] ++
      bullets ++ [[]])

theorem Listed.length {failed : List Verdict} {bullets : List (List Char)}
    (listed : Listed failed bullets) : bullets.length = max 1 failed.length := by
  cases listed with
  | none => rfl
  | each some bullet =>
    have pos := List.length_pos_iff.mpr some
    rw [← bullet.length_eq]
    omega

theorem length_table (position : Nat) (verdicts : List Verdict) :
    (table position verdicts).length = verdicts.length :=
  List.length_mapIdx

theorem Layout.length {verdicts : List Verdict} {lines : List (List Char)}
    (layout : Layout verdicts lines) :
    lines.length = 22 + verdicts.length + max 1 (failures verdicts).length := by
  obtain ⟨isHead, listed⟩ := layout
  simp only [List.length_append, isHead.size, List.length_map, length_table, listed.length,
    List.length_cons, List.length_nil]
  omega

/-! ### The table -/

theorem mark_eq_ok_iff (ok : Bool) : mark ok = "OK".toList ↔ ok = true := by
  cases ok <;> decide

theorem table_cons (position : Nat) (v : Verdict) (verdicts : List Verdict) :
    table position (v :: verdicts) = cells position v :: table (position + 1) verdicts := by
  simp only [table, List.mapIdx_cons, Nat.add_zero, Nat.add_assoc, Nat.add_comm 1]

/-- A column of marks has as many of success as there are verdicts that pass the test it shows. -/
theorem oks_table (column : Nat) (test : Verdict → Bool)
    (shows : ∀ position v, (cells position v)[column]? = some (mark (test v))) (position : Nat)
    (verdicts : List Verdict) : oks column (table position verdicts) = tally test verdicts := by
  induction verdicts generalizing position with
  | nil => rfl
  | cons v verdicts ih =>
    have rest := ih (position + 1)
    simp only [oks, tally] at rest ⊢
    rw [table_cons, List.countP_cons, rest, List.filter_cons]
    simp only [shows, Option.some_inj, mark_eq_ok_iff]
    split <;> simp_all

theorem tally_le {test test' : Verdict → Bool} {verdicts : List Verdict}
    (implies : ∀ v ∈ verdicts, test v = true → test' v = true) :
    tally test verdicts ≤ tally test' verdicts := by
  rw [tally, tally, ← List.countP_eq_length_filter, ← List.countP_eq_length_filter]
  exact List.countP_mono_left implies

/-! ### The head -/

/-- A verdict of success is one in everything. -/
def Sound (v : Verdict) : Prop :=
  v.success = true → v.operationOk = true ∧ v.filtersOk = true ∧ v.countOk = true

theorem isScore_summaryLine (title : String) (test : Verdict → Bool) (verdicts : List Verdict) :
    IsScore title (tally test verdicts) (table 1 verdicts) (summaryLine title test verdicts) := by
  rw [IsScore, length_table]
  exact ⟨_, rfl⟩

theorem isHead_headLines {verdicts : List Verdict} (sound : ∀ v ∈ verdicts, Sound v)
    (now : Timestamp) : IsHead (table 1 verdicts) (headLines verdicts now) := by
  have overall := oks_table 6 (·.success) (fun _ _ => rfl) 1 verdicts
  have operations := oks_table 2 (·.operationOk) (fun _ _ => rfl) 1 verdicts
  have filters := oks_table 3 (·.filtersOk) (fun _ _ => rfl) 1 verdicts
  have counts := oks_table 4 (·.countOk) (fun _ _ => rfl) 1 verdicts
  refine ⟨rfl, ⟨_, rfl, ?_⟩, ⟨_, rfl, ?_⟩, ⟨_, rfl, ?_⟩, ⟨_, rfl, ?_⟩, ?_, rfl⟩
  · rw [overall]
    exact isScore_summaryLine _ _ _
  · rw [operations]
    exact isScore_summaryLine _ _ _
  · rw [filters]
    exact isScore_summaryLine _ _ _
  · rw [counts]
    exact isScore_summaryLine _ _ _
  · rw [overall, operations, filters, counts]
    exact ⟨tally_le fun v member ok => (sound v member ok).1,
      tally_le fun v member ok => (sound v member ok).2.1,
      tally_le fun v member ok => (sound v member ok).2.2⟩

/-! ### Line feeds -/

theorem plain_toDigits (n : Nat) : '\n' ∉ Nat.toDigits 10 n := fun inside => by
  have digit := Nat.isDigit_of_mem_toDigits (by decide) (by decide) inside
  cases digit

theorem plain_intText (i : Int) : '\n' ∉ Number.intText i := by
  unfold Number.intText
  split <;> simp [plain_toDigits]

theorem plain_padded (width n : Nat) : '\n' ∉ Timestamp.padded width n := by
  simp [Timestamp.padded, plain_toDigits]

theorem plain_spacedMinuteText (t : Timestamp) : '\n' ∉ t.spacedMinuteText.toList := by
  have year : '\n' ∉ Timestamp.yearText t.year := by
    unfold Timestamp.yearText
    split <;> simp [plain_padded]
  simp [Timestamp.spacedMinuteText, Timestamp.dateText, Timestamp.minuteText, plain_padded, year]

theorem plain_wholeText (x : Double) : '\n' ∉ x.wholeText := by
  unfold Double.wholeText
  split
  · decide
  · split <;> decide
  · split <;> simp [plain_toDigits]

theorem plain_percentText (part whole : Nat) : '\n' ∉ percentText part whole := by
  unfold percentText
  split
  · decide
  · exact plain_wholeText _

theorem plain_meanText (values : List Int) : '\n' ∉ meanText values := by
  unfold meanText
  split
  · decide
  · exact plain_wholeText _

theorem plain_append {s t : List Char} (front : '\n' ∉ s) (back : '\n' ∉ t) : '\n' ∉ s ++ t :=
  fun inside => (List.mem_append.mp inside).elim front back

theorem plain_summaryLine {title : String} (plain : '\n' ∉ title.toList)
    (test : Verdict → Bool) (verdicts : List Verdict) :
    '\n' ∉ summaryLine title test verdicts := by
  unfold summaryLine
  refine plain_append (plain_append (plain_append (plain_append (plain_append (plain_append
    (plain_append (plain_append ?_ plain) ?_) (plain_percentText _ _)) ?_) (plain_toDigits _)) ?_)
    (plain_toDigits _)) ?_ <;> decide

theorem plain_latencyLine (verdicts : List Verdict) : '\n' ∉ latencyLine verdicts := by
  unfold latencyLine
  refine plain_append (plain_append (plain_append (plain_append ?_ (plain_meanText _)) ?_)
    (plain_intText _)) ?_ <;> decide

theorem plain_headLines (verdicts : List Verdict) (now : Timestamp) :
    ∀ line ∈ headLines verdicts now, '\n' ∉ line := by
  have generated : '\n' ∉ "> Generated: ".toList ++ now.spacedMinuteText.toList ++
      "  |  Questions: **".toList ++ digits verdicts.length ++ "**".toList := by
    refine plain_append (plain_append (plain_append (plain_append ?_ (plain_spacedMinuteText now))
      ?_) (plain_toDigits _)) ?_ <;> decide
  have score {title : String} (plain : '\n' ∉ title.toList) (test : Verdict → Bool) :=
    plain_summaryLine plain test verdicts
  simp only [headLines, List.forall_mem_cons]
  exact ⟨by decide, by decide, generated, by decide, by decide, by decide, by decide, by decide,
    score (by decide) _, score (by decide) _, score (by decide) _, score (by decide) _,
    plain_latencyLine verdicts, by decide, by decide, by decide, by decide, by decide, nofun⟩

/-- How many line feeds the report shows of a verdict: those of the question, as far as the table
shows it, and of the pseudo-query, and if it failed, those of the whole question and the error. -/
def Verdict.feeds (v : Verdict) : Nat :=
  (abridged v.question.display.toList).count '\n' + v.pseudoQuery.toList.count '\n' +
    if v.success then 0
    else v.question.display.toList.count '\n' + (v.error.getD "").toList.count '\n'

theorem count_feeds_mark (ok : Bool) : (mark ok).count '\n' = 0 := by
  cases ok <;> decide

theorem count_feeds_row (position : Nat) (v : Verdict) :
    (row (cells position v)).count '\n' =
      (abridged v.question.display.toList).count '\n' + v.pseudoQuery.toList.count '\n' := by
  have position : (digits position).count '\n' = 0 :=
    List.count_eq_zero.mpr (plain_toDigits position)
  simp [row, cells, join, count_feeds_mark, position]

theorem count_feeds_failureLine (v : Verdict) :
    (failureLine v).count '\n' =
      v.question.display.toList.count '\n' + (v.error.getD "").toList.count '\n' := by
  unfold failureLine
  split
  next absent => simp [absent]
  next empty => simp [empty]
  next e _ given => simp [given]

theorem sum_feeds_table (position : Nat) (verdicts : List Verdict) :
    (((table position verdicts).map row).map (List.count '\n')).sum =
      (verdicts.map fun v =>
        (abridged v.question.display.toList).count '\n' + v.pseudoQuery.toList.count '\n').sum := by
  induction verdicts generalizing position with
  | nil => rfl
  | cons v verdicts ih =>
    rw [table_cons]
    simp only [List.map_cons, List.sum_cons, count_feeds_row, ih (position + 1)]

theorem sum_feeds_failureLines (verdicts : List Verdict) :
    ((failureLines verdicts).map (List.count '\n')).sum =
      ((failures verdicts).map fun v =>
        v.question.display.toList.count '\n' + (v.error.getD "").toList.count '\n').sum := by
  rw [failureLines]
  split
  next none =>
    have none : failures verdicts = [] := List.isEmpty_iff.mp none
    rw [none]
    decide
  next =>
    simp only [List.map_map, Function.comp_def, count_feeds_failureLine]
    rfl

theorem sum_feeds_rows (verdicts : List Verdict) :
    (verdicts.map fun v =>
        (abridged v.question.display.toList).count '\n' + v.pseudoQuery.toList.count '\n').sum +
      ((failures verdicts).map fun v =>
        v.question.display.toList.count '\n' + (v.error.getD "").toList.count '\n').sum =
      (verdicts.map Verdict.feeds).sum := by
  induction verdicts with
  | nil => rfl
  | cons v verdicts ih =>
    simp only [failures] at ih ⊢
    rw [List.map_cons, List.sum_cons, List.map_cons, List.sum_cons, ← ih, Verdict.feeds,
      List.filter_cons]
    cases v.success with
    | true =>
      simp only [Bool.not_true, Bool.false_eq_true, if_false, if_true]
      omega
    | false =>
      simp only [Bool.not_false, Bool.false_eq_true, if_false, if_true, List.map_cons,
        List.sum_cons]
      omega

/-! ### Reports -/

theorem tableLines_eq {verdicts : List Verdict}
    (texts : ∀ v ∈ verdicts, ∃ question, v.question = .text question) (position : Nat) :
    tableLines position verdicts = .ok ((table position verdicts).map row) := by
  induction verdicts generalizing position with
  | nil => rfl
  | cons v verdicts ih =>
    obtain ⟨⟨question, asked⟩, texts⟩ := List.forall_mem_cons.mp texts
    have first : tableLine position v = .ok (row (cells position v)) := by
      rw [tableLine, questionText, cells, asked, Value.display_text]
      rfl
    rw [tableLines, first, ih texts, table_cons]
    rfl

/-- The lines of a report, before they are joined. -/
def linesOn (verdicts : List Verdict) (now : Timestamp) : List (List Char) :=
  headLines verdicts now ++ (table 1 verdicts).map row ++ [[], "## Failures".toList, []] ++
    failureLines verdicts ++ [[]]

theorem report_eq {verdicts : List Verdict}
    (texts : ∀ v ∈ verdicts, ∃ question, v.question = .text question) (now : Timestamp) :
    report verdicts now = .ok (.ofList (join ['\n'] (linesOn verdicts now))) := by
  rw [report, reportLines, tableLines_eq texts]
  rfl

theorem listed_failureLines (verdicts : List Verdict) :
    Listed (failures verdicts) (failureLines verdicts) := by
  rw [failureLines]
  split
  next none =>
    have none : failures verdicts = [] := List.isEmpty_iff.mp none
    rw [none]
    exact .none
  next some =>
    refine .each (fun none => some (List.isEmpty_iff.mpr none)) ?_
    refine List.forall₂_map_right_iff.mpr (List.forall₂_same.mpr fun v _ => ?_)
    refine ⟨_, rfl, ?_⟩
    split
    next absent => exact .inl ⟨by rw [absent]; rfl, rfl⟩
    next empty => exact .inl ⟨by rw [empty]; rfl, rfl⟩
    next e _ given => exact .inr ⟨e, given, rfl⟩

theorem layout_linesOn {verdicts : List Verdict} (sound : ∀ v ∈ verdicts, Sound v)
    (now : Timestamp) : Layout verdicts (linesOn verdicts now) :=
  .intro (isHead_headLines sound now) (listed_failureLines verdicts)

theorem linesOn_ne_nil (verdicts : List Verdict) (now : Timestamp) : linesOn verdicts now ≠ [] :=
  List.append_ne_nil_of_right_ne_nil _ (by simp)

theorem sum_feeds_linesOn (verdicts : List Verdict) (now : Timestamp) :
    ((linesOn verdicts now).map (List.count '\n')).sum = (verdicts.map Verdict.feeds).sum := by
  have head : ((headLines verdicts now).map (List.count '\n')).sum = 0 := by
    rw [List.sum_eq_zero_iff, List.forall_mem_map]
    exact fun line member => List.count_eq_zero.mpr (plain_headLines verdicts now line member)
  have between : ([[], "## Failures".toList, []].map (List.count '\n')).sum = 0 := by decide
  rw [linesOn]
  simp only [List.map_append, List.sum_append]
  rw [head, between, sum_feeds_table, sum_feeds_failureLines, ← sum_feeds_rows]
  simp

theorem splitOn_linesOn {verdicts : List Verdict} (feedless : ∀ v ∈ verdicts, v.feeds = 0)
    (now : Timestamp) :
    (join ['\n'] (linesOn verdicts now)).splitOn '\n' = linesOn verdicts now := by
  refine splitOn_join (linesOn_ne_nil verdicts now) fun line member => ?_
  have none : (verdicts.map Verdict.feeds).sum = 0 := by
    rw [List.sum_eq_zero_iff, List.forall_mem_map]
    exact feedless
  rw [← sum_feeds_linesOn verdicts now, List.sum_eq_zero_iff, List.forall_mem_map] at none
  exact List.count_eq_zero.mp (none line member)

theorem length_splitOn_linesOn {verdicts : List Verdict} (sound : ∀ v ∈ verdicts, Sound v)
    (now : Timestamp) :
    ((join ['\n'] (linesOn verdicts now)).splitOn '\n').length = 22 + verdicts.length +
      max 1 (failures verdicts).length + (verdicts.map Verdict.feeds).sum := by
  rw [length_splitOn_join (linesOn_ne_nil verdicts now), (layout_linesOn sound now).length,
    sum_feeds_linesOn]

variable {c : Configuration} {fields : List (Scalar × Value)} {supply : Supply}

theorem sound_judge (c : Configuration) (question : Value) (fields : List (Scalar × Value))
    (supply : Supply) :
    ∃ v, (judge c question fields supply).1.outcome = .ok v ∧ v.question = question ∧ Sound v := by
  cases asked : (Service.ask c none none question supply).1.outcome with
  | error e => exact ⟨_, outcome_judge_error asked, rfl, nofun⟩
  | ok a =>
    refine ⟨_, outcome_judge_ok asked, rfl, fun passed => ?_⟩
    simp only [Verdict.ofAnswer, Bool.and_eq_true] at passed
    exact ⟨passed.1.1, passed.1.2, passed.2⟩

/-- Every question gets a verdict, and a verdict of success is one in everything. -/
theorem evaluate_sound {objects : List (List (Scalar × Value))} {questions : List String}
    (asking : List.Forall₂ (fun fields question =>
      Value.find? "question" fields = some (.text question)) objects questions)
    (supply : Supply) :
    ∃ verdicts, (evaluate c (objects.map .object) supply).1.outcome = .ok verdicts ∧
      verdicts.map (·.question) = questions.map .text ∧ ∀ v ∈ verdicts, Sound v := by
  induction asking generalizing supply with
  | nil => exact ⟨[], rfl, rfl, nofun⟩
  | @cons fields question objects questions asks _ ih =>
    obtain ⟨v, first, same, sound⟩ := sound_judge c (.text question) fields supply
    obtain ⟨verdicts, others, rest, all⟩ := ih (judge c (.text question) fields supply).2
    refine ⟨v :: verdicts, ?_, ?_, List.forall_mem_cons.mpr ⟨sound, all⟩⟩
    · rw [List.map_cons, evaluate_cons asks, first, Traced.bind_ok, others, Traced.bind_ok]
    · rw [List.map_cons, same, rest, List.map_cons]

theorem texts_of_questions {verdicts : List Verdict} {questions : List String}
    (asked : verdicts.map (·.question) = questions.map .text) :
    ∀ v ∈ verdicts, ∃ question, v.question = .text question := fun v member => by
  have listed : v.question ∈ questions.map Value.text := asked ▸ List.mem_map_of_mem member
  obtain ⟨question, -, same⟩ := List.mem_map.mp listed
  exact ⟨question, same.symm⟩

/-- The report on an evaluation of questions that are texts consists of the lines of its layout: a
head whose scores count the marks of the table, a row for each question, and a line for each
failure. It shows texts as they are: split at its line feeds, the report has as many lines more as
there are line feeds in what it shows of the verdicts, and it is split into the lines of the layout
if there are none. -/
theorem report_lines (c : Configuration) {objects : List (List (Scalar × Value))}
    {questions : List String}
    (asking : List.Forall₂ (fun fields question =>
      Value.find? "question" fields = some (.text question)) objects questions)
    (supply : Supply) (now : Timestamp) :
    ∃ verdicts lines text,
      (evaluate c (objects.map .object) supply).1.outcome = .ok verdicts ∧
      verdicts.map (·.question) = questions.map .text ∧
      report verdicts now = .ok text ∧
      Layout verdicts lines ∧
      text.toList = join ['\n'] lines ∧
      (text.toList.splitOn '\n').length = 22 + verdicts.length +
        max 1 (failures verdicts).length + (verdicts.map Verdict.feeds).sum ∧
      ((∀ v ∈ verdicts, v.feeds = 0) → text.toList.splitOn '\n' = lines) := by
  obtain ⟨verdicts, evaluated, asked, sound⟩ := evaluate_sound (c := c) asking supply
  refine ⟨verdicts, linesOn verdicts now, _, evaluated, asked,
    report_eq (texts_of_questions asked) now, layout_linesOn sound now, ?_⟩
  rw [String.toList_ofList]
  exact ⟨rfl, length_splitOn_linesOn sound now, fun feedless => splitOn_linesOn feedless now⟩

/-- A question that is answered, and a blank one. -/
theorem report_lines_blank :
    let c : Configuration := { environment := [("DATASET_SIZE", "0")] }
    let objects : List (List (Scalar × Value)) :=
      [[(.text "question", .text "show sales")], [(.text "question", .text " ")]]
    let now : Timestamp := { year := 2024, month := 1, day := 2, hour := 3, minute := 4 }
    ∃ verdicts text, (evaluate c (objects.map .object) {}).1.outcome = .ok verdicts ∧
      report verdicts now = .ok text ∧ (text.toList.splitOn '\n').length = 25 := by
  intro c objects now
  have asking : List.Forall₂ (fun fields question =>
      Value.find? "question" fields = some (.text question)) objects ["show sales", " "] :=
    .cons rfl (.cons rfl .nil)
  obtain ⟨verdicts, _, text, evaluated, -, reported, -, -, length, -⟩ :=
    report_lines c asking {} now
  have judged : (evaluate c (objects.map .object) {}).1.outcome.toOption.map (fun verdicts =>
      (verdicts.length, (failures verdicts).length, verdicts.map Verdict.feeds)) =
      some (2, 1, [0, 0]) := by
    decide +kernel
  rw [evaluated] at judged
  simp only [Except.toOption, Option.map_some, Option.some_inj, Prod.mk.injEq] at judged
  obtain ⟨two, one, feedless⟩ := judged
  rw [two, one, feedless] at length
  exact ⟨verdicts, text, evaluated, reported, length⟩

/-- A question with a line feed takes two lines of the table. -/
theorem report_line_feed :
    let c : Configuration := { environment := [("DATASET_SIZE", "0")] }
    let objects : List (List (Scalar × Value)) := [[(.text "question", .text "show\nsales")]]
    let now : Timestamp := { year := 2024, month := 1, day := 2, hour := 3, minute := 4 }
    ∃ verdicts text, (evaluate c (objects.map .object) {}).1.outcome = .ok verdicts ∧
      report verdicts now = .ok text ∧
      (text.toList.splitOn '\n').length ≠ 22 + verdicts.length +
        max 1 (failures verdicts).length := by
  intro c objects now
  have asking : List.Forall₂ (fun fields question =>
      Value.find? "question" fields = some (.text question)) objects ["show\nsales"] :=
    .cons rfl .nil
  obtain ⟨verdicts, evaluated, asked, sound⟩ := evaluate_sound (c := c) asking {}
  have judged : (evaluate c (objects.map .object) {}).1.outcome.toOption.map (fun verdicts =>
      verdicts.map Verdict.feeds) = some [1] := by
    decide +kernel
  rw [evaluated] at judged
  simp only [Except.toOption, Option.map_some, Option.some_inj] at judged
  refine ⟨verdicts, _, evaluated, report_eq (texts_of_questions asked) now, ?_⟩
  rw [String.toList_ofList, length_splitOn_linesOn sound now, judged]
  simp

end Evaluation

end TableTalk
