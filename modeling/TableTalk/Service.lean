import TableTalk.Statement.Grammar
import TableTalk.Statement.Description
import TableTalk.Question.Extraction
import TableTalk.Execution
import TableTalk.Configuration
import TableTalk.Clock

/-!
# TableTalk.Service

The three services: a statement is checked, a statement is described, and a question is answered.
Each takes a value of any kind for its text and trims the text that shows it; a blank text is
refused before anything else. Only the description demands that the statement follows the grammar.
-/

namespace TableTalk

/-- The text of a request without the blanks at its ends; null counts as no text. -/
def normalise : Value → String
  | .null => ""
  | v => .ofList (Text.trim v.display.toList)

def shorten (width : Nat) (s : String) : String :=
  .ofList (s.toList.take width)

structure Validation where
  valid : Bool
  deriving DecidableEq, Repr

def Validation.message (v : Validation) : String :=
  if v.valid then "Valid SQL query." else "Invalid SQL query."

structure Explanation where
  query : String
  explanation : String
  deriving DecidableEq, Repr

/-- The answer to a question. -/
structure Answer where
  question : String
  intent : QueryIntent
  execution : Execution
  latency : Int

namespace Answer

/-- The answer in words. -/
def explanation (a : Answer) : String :=
  "Found " ++ .ofList (Number.intText a.execution.matchedCount) ++ " records matching your criteria"

end Answer

/-- What requests use up: the readings of a clock, and the first making of the dataset. -/
structure Supply where
  clock : Clock := {}
  datasetMade : Bool := true

namespace Service

def logger : String := "copilot.copilot.service"

/-- Whether a statement follows the grammar. -/
def validate (text : Value) : Traced Validation := do
  let query := normalise text
  if query.isEmpty then throw .missingStatement
  let valid := Statement.accepts query
  Traced.log Log.info logger
    ("Copilot.validate | valid=" ++ (Value.bool valid).display ++ " | query=" ++ shorten 80 query)
  return { valid }

/-- What a text says as a statement, with a record if it begins like none. -/
def describe (text : String) : Traced Statement.Kind := do
  let kind := Statement.Kind.ofText text
  if kind = .other then
    Traced.log Log.debug "copilot.copilot.explainer"
      "No explanation shape matched; using fallback"
  return kind

/-- What a statement does. -/
def explain (text : Value) : Traced Explanation := do
  let query := normalise text
  if query.isEmpty then throw .missingStatement
  if !Statement.accepts query then
    Traced.log Log.info logger ("Copilot.explain rejected invalid query=" ++ shorten 80 query)
    throw .malformedStatement
  return { query, explanation := (← describe query).sentence }

/-- The answer to a question that is not blank, from the rows of a store, by a catalog. -/
def answer (question : String) (store : Store) (catalog : Catalog) :
    Traced (QueryIntent × Execution) := do
  let intent ← Question.extract question catalog
  let rows ← store.rows intent.sourceTable
  let execution ← intent.execute rows catalog.previewRows
  return (intent, execution)

/-- The answer to a question. Rows come from the given store, or from the dataset; words are looked
up in the given catalog, or in that of the configuration. The clock is read before and behind the
work on the question, whether it fails or not. -/
def ask (c : Configuration) (store : Option Store) (catalog : Option Catalog) (text : Value)
    (supply : Supply) : Traced Answer × Supply :=
  let question := normalise text
  if question.isEmpty then (throw .missingQuestion, supply)
  else
    let (source, datasetMade) :=
      match store with
      | some s => (pure s, supply.datasetMade)
      | none =>
        let (dataset, made) := c.dataset supply.datasetMade
        ((do return (← dataset).store), made)
    let prepared : Traced (Store × Catalog) := do
      let store ← source
      let catalog ← c.catalogOr catalog
      Traced.log Log.info logger ("Copilot.query | question=" ++ shorten 120 question)
      return (store, catalog)
    match prepared.outcome with
    | .error e => (⟨prepared.records, .error e⟩, { supply with datasetMade })
    | .ok (store, catalog) =>
      let answered := answer question store catalog
      let (elapsed, clock) := supply.clock.time
      let outcome : Except Error Answer := do
        let latency ← elapsed
        let (intent, execution) ← answered.outcome
        return { question, intent, execution, latency }
      (⟨prepared.records ++ answered.records, outcome⟩, { clock, datasetMade })

end Service

end TableTalk
