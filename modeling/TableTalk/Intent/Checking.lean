import TableTalk.Intent
import TableTalk.Value.Display

/-!
# TableTalk.Intent.Checking

Intents and filters from values. Every field is checked, and every fault is reported, in the order
of the fields; keys that filters do not have are faults, keys that intents do not have are ignored.
-/

namespace TableTalk

/-- A checked value, or what is wrong with it. -/
abbrev Checked (α : Type) : Type :=
  Except (List Fault) α

def Fault.of (kind : FaultKind) (place : List Step) (v : Value) : Fault :=
  { kind, place, found := some v.sample }

/-- A text at a place, or bytes that are one. -/
def checkText (place : List Step) : Value → Checked Scalar
  | .text s => .ok (.text s)
  | .torn codes => .ok (.torn codes)
  | .bytes content =>
    match String.fromUTF8? ⟨content.toArray⟩ with
    | some s => .ok (.text s)
    | none => .error [.of .stringUnreadable place (.bytes content)]
  | v => .error [.of .stringExpected place v]

-- A text at a place by what it shows, which is itself unless halves of pairs stand alone in it.
def checkName (place : List Step) (v : Value) : Checked String :=
  (checkText place v).map fun s => (Value.scalar s).display

@[simp]
theorem checkName_text (place : List Step) (s : String) : checkName place (.text s) = .ok s :=
  congrArg Except.ok (Value.display_text s)

def faultsOf {α : Type} : Checked α → List Fault
  | .error faults => faults
  | .ok _ => []

namespace FilterSet

def checkNames (position : Nat) : List Value → Checked (List String)
  | [] => .ok []
  | item :: rest =>
    match checkName [.key "region", .index position] item, checkNames (position + 1) rest with
    | .ok name, .ok names => .ok (name :: names)
    | first, others => .error (faultsOf first ++ faultsOf others)

/-- The condition on the region: absent, null, or a list of texts. -/
def checkRegion : Option Value → Checked (Option (List String))
  | none | some .null => .ok none
  | some (.list items) => (checkNames 0 items).map some
  | some v => .error [.of .listExpected [.key "region"] v]

/-- The condition on the product: absent, null, or a text. -/
def checkProduct : Option Value → Checked (Option String)
  | none | some .null => .ok none
  | some v => (checkName [.key "product"] v).map some

/-- A fault for each key that filters do not have. -/
def unknownKeys (fields : List (Scalar × Value)) : List Fault :=
  (fields.filter fun (key, _) => key ≠ .text "region" && key ≠ .text "product").map
    fun (key, v) => .of .unknownKey [.key (Value.scalar key).display] v

def subject : String := "FilterSet"

def ofFields (fields : List (Scalar × Value)) : Checked FilterSet :=
  match checkRegion (Value.find? "region" fields), checkProduct (Value.find? "product" fields),
    unknownKeys fields with
  | .ok region, .ok product, [] => .ok { region, product }
  | region, product, unknown => .error (faultsOf region ++ faultsOf product ++ unknown)

end FilterSet

namespace QueryIntent

/-- The table: a text, and by default the table of sales. -/
def checkTable : Option Value → Checked String
  | none => .ok ({} : QueryIntent).sourceTable
  | some v => checkName [.key "source_table"] v

/-- The operation: the name of one, and by default a selection. -/
def checkOperation : Option Value → Checked Operation
  | none => .ok ({} : QueryIntent).operation
  | some (.text s) =>
    match Operation.ofName? s with
    | some operation => .ok operation
    | none => .error [.of .operationExpected [.key "operation"] (.text s)]
  | some v => .error [.of .operationExpected [.key "operation"] v]

/-- The filters: an object, and by default no filters. -/
def checkFilters : Option Value → Checked FilterSet
  | none => .ok {}
  | some (.object fields) => (FilterSet.ofFields fields).mapError (·.map (.under (.key "filters")))
  | some v => .error [.of .filtersExpected [.key "filters"] v]

def ofChecked (table : Checked String) (operation : Checked Operation)
    (filters : Checked FilterSet) : Checked QueryIntent :=
  match table, operation, filters with
  | .ok sourceTable, .ok operation, .ok filters => .ok { sourceTable, operation, filters }
  | table, operation, filters =>
    .error (faultsOf table ++ faultsOf operation ++ faultsOf filters)

def subject : String := "QueryIntent"

def ofFields (fields : List (Scalar × Value)) : Checked QueryIntent :=
  ofChecked (checkTable (Value.find? "source_table" fields))
    (checkOperation (Value.find? "operation" fields)) (checkFilters (Value.find? "filters" fields))

end QueryIntent

end TableTalk
