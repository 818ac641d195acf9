import TableTalk.Json.Writer

/-!
# TableTalk.Intent

What a question asks for: an operation on the rows of a table that pass a set of filters.
-/

namespace TableTalk

/-- What is done with the rows that pass the filters. -/
inductive Operation where
  | select
  | count
  | sum
  | average
  deriving DecidableEq, Repr

namespace Operation

def all : List Operation := [select, count, sum, average]

def name : Operation → String
  | select => "SELECT"
  | count => "COUNT"
  | sum => "SUM"
  | average => "AVG"

def ofName? (name : String) : Option Operation :=
  all.find? (·.name = name)

theorem ofName?_eq_some {name : String} {operation : Operation} :
    ofName? name = some operation ↔ name = operation.name := by
  constructor
  · intro found
    have same := List.find?_some found
    exact (of_decide_eq_true same).symm
  · rintro rfl
    cases operation <;> decide

end Operation

/-- Conditions on rows that hold together; one that is absent admits every row. -/
structure FilterSet where
  -- The admitted regions, in lower case.
  region : Option (List String) := none
  -- The admitted product, in lower case.
  product : Option String := none
  deriving DecidableEq, Repr

namespace FilterSet

def isEmpty (f : FilterSet) : Bool :=
  f.region.isNone && f.product.isNone

def toValue (f : FilterSet) : Value :=
  .record [("region", (f.region.map Value.texts).getD .null), ("product", .ofText? f.product)]

def active (f : FilterSet) : List (String × Value) :=
  (f.region.map fun names => ("region", Value.texts names)).toList ++
    (f.product.map fun name => ("product", Value.text name)).toList

end FilterSet

/-- What a question asks for. -/
structure QueryIntent where
  sourceTable : String := "sales"
  operation : Operation := .select
  filters : FilterSet := {}
  deriving DecidableEq, Repr

namespace QueryIntent

def toValue (intent : QueryIntent) : Value :=
  .record [("source_table", .text intent.sourceTable), ("operation", .text intent.operation.name),
    ("filters", intent.filters.toValue)]

def json (intent : QueryIntent) : String :=
  .ofList (Json.write intent.toValue)

end QueryIntent

end TableTalk
