import TableTalk.Execution.Filter
import TableTalk.Execution.PseudoQuery
import TableTalk.Log

/-!
# TableTalk.Execution

The execution of an intent on rows: the rows that pass its filters are counted, summed or listed. An
average has no operation of its own; it lists rows like a selection, and the answer says so.
-/

namespace TableTalk

/-- What an operation makes of rows. -/
inductive Outcome where
  | count (n : Nat)
  | total (amount : Number)
  | rows (found : List Row)

namespace Outcome

def toValue : Outcome → Value
  | count n => .int n
  | total amount => .number amount
  | rows found => .list (found.map Row.toValue)

/-- The outcome as part of an answer: a number with its name, or a list of rows. -/
def wrapped : Outcome → Value
  | count n => .record [("count", .int n)]
  | total amount => .record [("total", .number amount)]
  | rows found => .list (found.map Row.toValue)

end Outcome

/-- The sum of an amount and the amounts of rows, from left to right. -/
def totalFrom (sum : Number) : List Row → Except Error Number
  | [] => .ok sum
  | row :: rows => do totalFrom (← sum.add row.amount) rows

namespace Operation

/-- What an operation makes of rows, of which a list shows those before the position `preview`. -/
def run (operation : Operation) (rows : List Row) (preview : Int) : Except Error Outcome :=
  match operation with
  | count => .ok (.count rows.length)
  | sum => (totalFrom (.int 0) rows).map .total
  | select | average => .ok (.rows (slice 0 preview rows))

end Operation

def defaultPreview : Int := 5

/-- The note on an answer that lists rows in place of an average. -/
def averageNote : String := "average_not_implemented"

structure Execution where
  outcome : Outcome
  renderedQuery : String
  matchedCount : Nat
  fallback : Option String

namespace QueryIntent

def note (intent : QueryIntent) : Option String :=
  if intent.operation = .average then some averageNote else none

/-- The execution of an intent on rows, with records of it. -/
def execute (intent : QueryIntent) (rows : List Row) (preview : Int) : Traced Execution := do
  let logger := "copilot.copilot.executor"
  let matched ← intent.filters.apply rows
  if intent.operation = .average then
    Traced.log Log.info logger
      ("AVG has no aggregation; listing rows as SELECT (" ++ averageNote ++ ")")
  let outcome ← intent.operation.run matched preview
  Traced.log Log.info logger
    ("Executed " ++ intent.render ++ "  matched=" ++
      .ofList (Number.intText matched.length))
  return {
    outcome
    renderedQuery := intent.render
    matchedCount := matched.length
    fallback := intent.note }

end QueryIntent

end TableTalk
