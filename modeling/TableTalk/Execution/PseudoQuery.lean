import TableTalk.Intent

/-!
# TableTalk.Execution.PseudoQuery

Intents as pseudo-queries, for display. A filter value is a literal between single quotes, in which
a single quote is written twice.
-/

namespace TableTalk

namespace PseudoQuery

/-- A text between single quotes, single quotes inside it doubled. -/
def literal (s : List Char) : List Char :=
  '\x27' :: s.flatMap (fun c => if c = '\x27' then ['\x27', '\x27'] else [c]) ++ ['\x27']

def regionClause (names : List String) : List Char :=
  "region IN (".toList ++ Text.join [',', ' '] (names.map (literal ·.toList)) ++ [')']

def productClause (name : String) : List Char :=
  "product = ".toList ++ literal name.toList

def clauses (f : FilterSet) : List (List Char) :=
  (f.region.map regionClause).toList ++ (f.product.map productClause).toList

def projection (operation : Operation) : String :=
  if operation = .select then "*" else operation.name

def condition (f : FilterSet) : List Char :=
  if (clauses f).isEmpty then []
  else " WHERE ".toList ++ Text.join " AND ".toList (clauses f)

def chars (intent : QueryIntent) : List Char :=
  "SELECT ".toList ++ (projection intent.operation).toList ++ " FROM ".toList ++
    intent.sourceTable.toList ++ condition intent.filters

end PseudoQuery

def quoteLiteral (s : String) : String :=
  .ofList (PseudoQuery.literal s.toList)

namespace FilterSet

def clauses (f : FilterSet) : List String :=
  (PseudoQuery.clauses f).map .ofList

end FilterSet

namespace QueryIntent

/-- The pseudo-query of an intent. -/
def render (intent : QueryIntent) : String :=
  .ofList (PseudoQuery.chars intent)

end QueryIntent

end TableTalk
