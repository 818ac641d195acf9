import TableTalk.Json.Reader
import TableTalk.Text.Lines

/-!
# TableTalk.Evaluation.Question

The questions of an evaluation: JSON values, one a line of a file, and the seven that are asked
where no file is given.
-/

namespace TableTalk.Evaluation

def lineValue (room : Nat) (line : List Char) : Except Error Value :=
  (Json.read room line).mapError fun
    | .malformed _ => .malformedJson
    | .beyond e => e

def lineValues (room : Nat) : List (List Char) → Except Error (List Value)
  | [] => .ok []
  | line :: rest => do
    let first ← lineValue room line
    let others ← lineValues room rest
    return first :: others

/-- The questions of a file, with room for so many lists and objects within each other. -/
def questionsOf (room : Nat) (content : String) : Except Error (List Value) :=
  lineValues room ((Text.fileLines content.toList).filter fun line => !(Text.trim line).isEmpty)

def expecting (question operation : String) (filters : List (String × Value)) (count : Int) :
    Value :=
  .record [("question", .text question), ("expected_operation", .text operation),
    ("expected_filters", .record filters), ("expected_matched_count", .int count)]

def standardQuestions : List Value :=
  [expecting "How many laptops were sold?" "COUNT" [("product", .text "laptop")] 34,
   expecting "Total sales in north" "SUM" [("region", .texts ["north"])] 25,
   expecting "how many phone sales in south" "COUNT"
     [("region", .texts ["south"]), ("product", .text "phone")] 9,
   expecting "show sales in North, South and East" "SELECT"
     [("region", .texts ["north", "south", "east"])] 75,
   expecting "average tablet amount" "AVG" [("product", .text "tablet")] 33,
   expecting "list everything" "SELECT" [] 100,
   expecting "total laptop sales in north or west" "SUM"
     [("region", .texts ["north", "west"]), ("product", .text "laptop")] 18]

end TableTalk.Evaluation
