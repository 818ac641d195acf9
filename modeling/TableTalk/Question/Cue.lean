import TableTalk.Intent

/-!
# TableTalk.Question.Cue

The operation that a question asks for, told by the cues that occur in it.
-/

namespace TableTalk.Question

/-- The cues, each with the operation it asks for; of several that occur, the last one decides. -/
def cues : List (String × Operation) :=
  [("total", .sum), ("how many", .count), ("average", .average)]

/-- The operation of a question in lower case: that of the last cue that occurs, and a selection if
none does. -/
def operationOf (q : List Char) : Operation :=
  cues.foldl (fun found (cue, operation) =>
    if Text.occursIn cue.toList q then operation else found) .select

def classify (question : String) : Operation :=
  operationOf (Text.lower question.toList)

end TableTalk.Question
