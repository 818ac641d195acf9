import TableTalk.Service
import TableTalk.Evaluation.Question

/-!
# TableTalk.Evaluation.Verdict

The judgement of answers. A question says which operation, filters and count its answer should have;
each is judged on its own, and a question that fails is judged wrong in all of them. Numbers are
compared by value, so that zero and false are equal and so are a whole number in double precision
and the integer.
-/

namespace TableTalk

namespace Value

def equalsInt (i : Int) : Value → Bool
  | bool b => i = b.toNat
  | number n => n.equalsInt i
  | _ => false

def equalsText (s : String) : Value → Bool
  | text t => t = s
  | _ => false

def equalTexts : List String → List Value → Bool
  | [], [] => true
  | s :: ss, v :: vs => v.equalsText s && equalTexts ss vs
  | _, _ => false

def equalsTexts (ss : List String) : Value → Bool
  | list items => equalTexts ss items
  | _ => false

end Value

def FilterSet.agrees (f : FilterSet) : Value → Bool
  | .object fields =>
    fields.length = f.active.length &&
      f.region.all (fun names => (Value.find? "region" fields).any (Value.equalsTexts names)) &&
      f.product.all (fun name => (Value.find? "product" fields).any (Value.equalsText name))
  | _ => false

namespace Evaluation

/-- The judgement of the answer to a question. -/
structure Verdict where
  question : Value
  error : Option String
  latency : Int
  operationOk : Bool
  filtersOk : Bool
  countOk : Bool
  -- How many rows matched, unless the question failed.
  matchedCount : Option Nat
  pseudoQuery : String
  success : Bool

namespace Verdict

def failed (w : Wording) (question : Value) (e : Error) : Verdict where
  question
  error := some (e.message w)
  latency := 0
  operationOk := false
  filtersOk := false
  countOk := false
  matchedCount := none
  pseudoQuery := ""
  success := false

/-- Whether the operation is the expected one; a selection is expected unless something else is. -/
def judgeOperation (fields : List (Scalar × Value)) (operation : Operation) : Bool :=
  match Value.find? "expected_operation" fields with
  | none => operation = .select
  | some v => v.equalsText operation.name

/-- Whether the filters are the expected ones; none are expected unless some are. -/
def judgeFilters (fields : List (Scalar × Value)) (filters : FilterSet) : Bool :=
  filters.agrees ((Value.find? "expected_filters" fields).getD (.object []))

/-- Whether the number of rows is the expected one; any is good unless one is expected. -/
def judgeCount (fields : List (Scalar × Value)) (count : Nat) : Bool :=
  match Value.find? "expected_matched_count" fields with
  | none | some .null => true
  | some v => v.equalsInt count

/-- The judgement of an answer by what the fields of a question expect. -/
def ofAnswer (fields : List (Scalar × Value)) (question : Value) (a : Answer) : Verdict :=
  let operationOk := judgeOperation fields a.intent.operation
  let filtersOk := judgeFilters fields a.intent.filters
  let countOk := judgeCount fields a.execution.matchedCount
  { question
    error := none
    latency := a.latency
    operationOk
    filtersOk
    countOk
    matchedCount := some a.execution.matchedCount
    pseudoQuery := a.execution.renderedQuery
    success := operationOk && filtersOk && countOk }

def toValue (v : Verdict) : Value :=
  .record
    ([("question", v.question), ("error", .ofText? v.error), ("latency_ms", .int v.latency),
      ("operation_ok", .bool v.operationOk), ("filters_ok", .bool v.filtersOk),
      ("count_ok", .bool v.countOk)] ++
     (v.matchedCount.map fun n => ("matched_count", Value.int n)).toList ++
     [("pseudo_sql", .text v.pseudoQuery), ("success", .bool v.success)])

end Verdict

def judge (c : Configuration) (question : Value) (fields : List (Scalar × Value))
    (supply : Supply) : Traced Verdict × Supply :=
  let (asked, supply') := Service.ask c none none question supply
  let verdict :=
    match asked.outcome with
    | .ok a => Verdict.ofAnswer fields question a
    | .error e => Verdict.failed c.wording question e
  (⟨asked.records, .ok verdict⟩, supply')

/-- The judgements of questions, in order. A value that is no object with a question ends the
evaluation. -/
def evaluate (c : Configuration) : List Value → Supply → Traced (List Verdict) × Supply
  | [], supply => (pure [], supply)
  | v :: vs, supply =>
    match v.required "question", v with
    | .ok question, .object fields =>
      let (first, supply') := judge c question fields supply
      let (others, supply'') := evaluate c vs supply'
      ((do return (← first) :: (← others)), supply'')
    | .error e, _ => (throw e, supply)
    | .ok _, v => (throw (.noFields v.kindName), supply)

end Evaluation

end TableTalk
