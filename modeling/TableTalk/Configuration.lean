import TableTalk.Settings
import TableTalk.Catalog.Reading
import TableTalk.Value.Display
import TableTalk.Store
import TableTalk.Log
import TableTalk.Yaml.Reader

/-!
# TableTalk.Configuration

What a service runs on: an environment, the file that its catalog comes from, and the platform that
reads texts for it. Settings, catalog and dataset are functions of these, and each fails for reasons
of its own whenever it is asked for.
-/

namespace TableTalk

/-- Where the catalog comes from. -/
inductive CatalogSource where
  -- The catalog of the table of sales.
  | standard
  -- A file with this content.
  | file (content : String)

def CatalogSource.content : CatalogSource → String
  | standard => ""
  | file content => content

/-- What a service stands on and does not decide itself. Unless a platform says otherwise, a
thousand calls may stand within each other, of which a list or an object of a JSON text takes one
and a node of a catalog file two. -/
structure Platform where
  -- How many lists and objects of a JSON text may stand within each other.
  jsonRoom : Nat := 1000
  -- How many nodes of a catalog file may stand within each other.
  catalogRoom : Nat := 500
  -- Whether the body of a request that does not say its type is read as JSON.
  readsUntyped : Bool := false
  -- Where a kind of fault is explained.
  guide : FaultKind → String := FaultKind.label
  -- What is wrong with a catalog file of this content that is no YAML.
  complaint : String → String := fun _ => "no YAML"
  -- Why a text of these numbers cannot be written, in which halves of pairs stand alone.
  tornText : List Nat → String := fun _ => "no text"

structure Dataset where
  tableName : Value
  rows : List Row

namespace Dataset

-- The dataset as a store. Only a table whose name is a text can be asked for.
def store (d : Dataset) : Store :=
  match d.tableName with
  | .text name => .ofTables [(name, d.rows)]
  | _ => {}

end Dataset

structure Configuration where
  environment : Environment := []
  catalogSource : CatalogSource := .standard
  platform : Platform := {}

namespace Configuration

def settings (c : Configuration) : Except Error Settings :=
  Settings.ofEnvironment c.environment

def catalog (c : Configuration) : Except Error Catalog :=
  match c.catalogSource with
  | .standard => .ok .sales
  | .file content => do Catalog.ofValue (← Yaml.read c.platform.catalogRoom content)

def wording (c : Configuration) : Wording where
  guide := c.platform.guide
  malformedYaml := c.platform.complaint c.catalogSource.content
  tornText := c.platform.tornText

def catalogOr (c : Configuration) : Option Catalog → Except Error Catalog
  | some k => .ok k
  | none => c.catalog

/-- Whether a value can name a table: lists and objects cannot. -/
def nameable : Value → Except Error Unit
  | .scalar _ => .ok ()
  | v => .error (.noName v.kindName)

def makeDataset (c : Configuration) : Traced Dataset := do
  let settings ← c.settings
  let catalog ← c.catalog
  let rows ← Seed.sales catalog settings.datasetSize settings.datasetSeed
  Traced.log Log.info "copilot.db.dataset"
    ("Dataset seeded  table=" ++ catalog.tableName.display ++ "  rows=" ++
      .ofList (Number.intText rows.length))
  nameable catalog.tableName
  return { tableName := catalog.tableName, rows }

def dataset (c : Configuration) (made : Bool) : Traced Dataset × Bool :=
  let making := c.makeDataset
  match making.outcome with
  | .ok d => (⟨if made then [] else making.records, .ok d⟩, true)
  | .error _ => (making, made)

/-- What the dataset is does not depend on whether it was made before. -/
theorem outcome_dataset (c : Configuration) (made : Bool) :
    (c.dataset made).1.outcome = c.makeDataset.outcome := by
  simp only [dataset]
  cases h : c.makeDataset.outcome <;> simp [h]

end Configuration

end TableTalk
