import TableTalk.Evaluation.Verdict

/-!
# TableTalk.Evaluation.Report

The report on an evaluation, a text of lines: a summary, a line of a table for each question, and a
list of the questions that failed; and the shorter text that a run prints.
-/

namespace TableTalk.Evaluation

def digits (n : Nat) : List Char :=
  Nat.toDigits 10 n

def percentText (part whole : Nat) : List Char :=
  if whole = 0 then ['0'] else ((Double.ofRatio part whole).mul (.ofInt 100)).wholeText

def meanText (values : List Int) : List Char :=
  let sum := values.foldl (· + ·) 0
  if values.isEmpty then ['0'] else (Double.ofRatio sum values.length).wholeText

def greatest : List Int → Int
  | [] => 0
  | i :: rest => rest.foldl max i

def tally (test : Verdict → Bool) (verdicts : List Verdict) : Nat :=
  (verdicts.filter test).length

def summaryLine (title : String) (test : Verdict → Bool) (verdicts : List Verdict) : List Char :=
  let part := tally test verdicts
  let whole := verdicts.length
  "| ".toList ++ title.toList ++ " | **".toList ++ percentText part whole ++ "%** (".toList ++
    digits part ++ ['/'] ++ digits whole ++ ") |".toList

def latencyLine (verdicts : List Verdict) : List Char :=
  let latencies := verdicts.map (·.latency)
  "| Mean latency | ".toList ++ meanText latencies ++ " ms (max ".toList ++
    Number.intText (greatest latencies) ++ " ms) |".toList

def mark (ok : Bool) : List Char :=
  if ok then "OK".toList else "ERROR".toList

-- The text of a question as it shows, where the replacement character stands for a half of a pair
-- that stands alone; a question of another kind cannot be shown.
def questionText (v : Verdict) : Except Error (List Char) :=
  match v.question with
  | .text s => .ok s.toList
  | .torn codes => .ok (codes.map Text.charOf)
  | other => .error (.noFields other.kindName)

def shownWidth : Nat := 55

def abridged (s : List Char) : List Char :=
  s.take shownWidth ++ if shownWidth < s.length then "...".toList else []

def tableLine (position : Nat) (v : Verdict) : Except Error (List Char) := do
  let question ← questionText v
  let cells := [digits position, abridged question, mark v.operationOk, mark v.filtersOk,
    mark v.countOk, '\x60' :: v.pseudoQuery.toList ++ ['\x60'], mark v.success]
  return "| ".toList ++ Text.join " | ".toList cells ++ " |".toList

def tableLines (position : Nat) : List Verdict → Except Error (List (List Char))
  | [] => .ok []
  | v :: vs => do
    let first ← tableLine position v
    let others ← tableLines (position + 1) vs
    return first :: others

def failureLine (v : Verdict) : List Char :=
  "- ".toList ++ v.question.display.toList ++
    match v.error with
    | none | some "" => []
    | some e => " (error: ".toList ++ ['\x60'] ++ e.toList ++ ['\x60', ')']

def failureLines (verdicts : List Verdict) : List (List Char) :=
  let failures := verdicts.filter (!·.success)
  if failures.isEmpty then ["None -- all questions handled correctly.".toList]
  else failures.map failureLine

def headLines (verdicts : List Verdict) (now : Timestamp) : List (List Char) :=
  ["# Evaluation Report".toList,
   [],
   "> Generated: ".toList ++ now.spacedMinuteText.toList ++ "  |  Questions: **".toList ++
     digits verdicts.length ++ "**".toList,
   [],
   "## Summary".toList,
   [],
   "| Check | Value |".toList,
   "|-------|-------|".toList,
   summaryLine "Overall accuracy" (·.success) verdicts,
   summaryLine "Operation correctness" (·.operationOk) verdicts,
   summaryLine "Filter correctness" (·.filtersOk) verdicts,
   summaryLine "Match count correctness" (·.countOk) verdicts,
   latencyLine verdicts,
   [],
   "## Per-Question Results".toList,
   [],
   "| # | Question | Op | Filters | Count | Pseudo-SQL | Pass |".toList,
   "|---|----------|----|---------|-------|------------|------|".toList]

def reportLines (verdicts : List Verdict) (now : Timestamp) : Except Error (List (List Char)) := do
  let table ← tableLines 1 verdicts
  return headLines verdicts now ++ table ++ [[], "## Failures".toList, []] ++
    failureLines verdicts ++ [[]]

def report (verdicts : List Verdict) (now : Timestamp) : Except Error String := do
  return .ofList (Text.join ['\n'] (← reportLines verdicts now))

/-! ### Verdicts from values -/

-- The fields that all verdicts are asked for before the lines are made, in this order.
def summaryFields : List String :=
  ["success", "operation_ok", "filters_ok", "count_ok", "latency_ms"]

def flag (key : String) (v : Value) : Except Error Bool := do
  return !(← v.required key).isNothing

def Verdict.ofValue (v : Value) : Except Error Verdict := do
  let success ← flag "success" v
  let operationOk ← flag "operation_ok" v
  let filtersOk ← flag "filters_ok" v
  let countOk ← flag "count_ok" v
  let latency ← (← v.required "latency_ms").toInteger
  let question ← v.required "question"
  let pseudoQuery ← v.required "pseudo_sql"
  let error ← v.optional "error" .null
  return {
    question
    error := if error.isNothing then none else some error.display
    latency
    operationOk
    filtersOk
    countOk
    matchedCount := none
    pseudoQuery := pseudoQuery.display
    success }

-- Verdicts from their values; what is lacking in any of them shows in the order of the summary.
def verdictsOf (values : List Value) : Except Error (List Verdict) := do
  summaryFields.forM fun key => values.forM fun v => discard (v.required key)
  values.mapM Verdict.ofValue

/-! ### A run -/

def padRight (width : Nat) (s : List Char) : List Char :=
  s ++ List.replicate (width - s.length) ' '

def padLeft (width : Nat) (s : List Char) : List Char :=
  List.replicate (width - s.length) ' ' ++ s

/-- The place in a question of the first half of a pair that stands alone. No text that is printed
or stored may have one. -/
def looseHalf? (v : Verdict) : Option Nat :=
  match v.question with
  | .torn codes => codes.findIdx? Text.isHalf
  | _ => none

def progressWidth : Nat := 60

def progressLine (whole position : Nat) (v : Verdict) : Except Error (List Char) := do
  let question ← questionText v
  if (looseHalf? v).any (· < progressWidth) then throw .unwritable
  return "  [".toList ++ padLeft 2 (digits position) ++ ['/'] ++ digits whole ++ "] ".toList ++
    (if v.success then "PASS" else "FAIL").toList ++ "  ".toList ++
    padRight progressWidth (question.take progressWidth) ++ "  ".toList ++
    padLeft 4 (Number.intText v.latency) ++ "ms".toList

def progressLines (whole position : Nat) : List Verdict → Except Error (List (List Char))
  | [] => .ok []
  | v :: vs => do
    let first ← progressLine whole position v
    let others ← progressLines whole (position + 1) vs
    return first :: others

structure Run where
  printed : String
  report : String

def runOn (verdicts : List Verdict) (now : Timestamp) (place : String) : Except Error Run := do
  let whole := verdicts.length
  let progress ← progressLines whole 1 verdicts
  let report ← report verdicts now
  -- Of a question that failed the report has the whole text.
  if verdicts.any fun v => !v.success && (looseHalf? v).isSome then throw .unwritable
  let passed := tally (·.success) verdicts
  let rule := List.replicate 50 '='
  let lines := ["Loaded ".toList ++ digits whole ++ " eval questions.".toList] ++ progress ++
    [[], "Report written to ".toList ++ place.toList, [], rule,
     "  Accuracy: ".toList ++ digits passed ++ ['/'] ++ digits whole ++ " (".toList ++
       percentText passed whole ++ "%)".toList,
     rule]
  return { printed := .ofList (lines.flatMap (· ++ ['\n'])), report }

def run (c : Configuration) (content : Option String) (now : Timestamp) (place : String)
    (supply : Supply) : Traced Run × Supply :=
  let questions :=
    match content with
    | some text => questionsOf c.platform.jsonRoom text
    | none => .ok standardQuestions
  match questions with
  | .error e => (throw e, supply)
  | .ok values =>
    let (judged, supply') := evaluate c values supply
    ((do runOn (← judged) now place), supply')

end TableTalk.Evaluation
