import TableTalk.Catalog
import TableTalk.Number.Reading

/-!
# TableTalk.Catalog.Reading

Catalogs from values. A catalog value has three sections, for the table, the vocabulary and the
selections; a section that is absent or nothing counts as empty, and what a section lacks has a
default, but for the names of the table and of its fields. Names and descriptions are taken as they
are; only the number of rows shown has to be an integer.
-/

namespace TableTalk

namespace Value

/-- The entries of a value: the items of a list, the keys of an object, the characters of a text,
the numbers of bytes. -/
def entries : Value → Except Error (List Value)
  | list items => .ok items
  | pair first second => .ok [first, second]
  | set members => .ok (members.map scalar)
  | object fields => .ok (fields.map fun (key, _) => scalar key)
  | text s => .ok (s.toList.map fun c => text (.singleton c))
  | torn codes => .ok (codes.map fun code => scalar (.ofCodes [code]))
  | bytes content => .ok (content.map fun byte => int byte.toNat)
  | v => .error (.noEntries v.kindName)

def required (key : String) : Value → Except Error Value
  | object fields =>
    match find? key fields with
    | some v => .ok v
    | none => .error (.missingKey key)
  | v => .error (.noFields v.kindName)

def optional (v : Value) (key : String) (default : Value) : Except Error Value :=
  match v with
  | object fields => .ok ((find? key fields).getD default)
  | v => .error (.sectionExpected v.kindName)

/-- The integer that a value stands for: what is before the point of a number, one for true and zero
for false, and the integer that a text writes, or bytes. -/
def toInteger : Value → Except Error Int
  | number n => n.truncate
  | bool b => .ok b.toNat
  | text s => Number.readInteger 10 s.toList
  | torn codes => Number.readIntegerCodes codes
  | bytes content => Number.readIntegerBytes content
  | v => .error (.noInteger v.kindName)

end Value

def Field.ofValue (v : Value) : Except Error Field := do
  let name ← v.required "name"
  let type ← v.optional "type" (.text "string")
  let description ← v.optional "description" (.text "")
  return { name, type, description }

def Field.ofValues : List Value → Except Error (List Field)
  | [] => .ok []
  | v :: vs => do
    let field ← Field.ofValue v
    let fields ← Field.ofValues vs
    return field :: fields

namespace Catalog

-- A section of a catalog value; one that is absent or nothing is empty.
def sectionOf (name : String) (v : Value) : Except Error Value := do
  let content ← v.optional name .null
  return if content.isNothing then .object [] else content

def ofValue (v : Value) : Except Error Catalog := do
  let table ← sectionOf "table" v
  let vocabulary ← sectionOf "vocabulary" v
  let selection ← sectionOf "select" v
  let version ← v.optional "version" (.int 1)
  let tableName ← table.required "name"
  let description ← table.optional "description" (.text "")
  let fields ← (← (← table.optional "fields" (.list [])).entries) |> Field.ofValues
  let products ← (← vocabulary.optional "products" (.list [])).entries
  let regions ← (← vocabulary.optional "regions" (.list [])).entries
  let previewRows ← (← selection.optional "preview_rows" (.int 5)).toInteger
  return { version, tableName, description, fields, products, regions, previewRows }

def fieldValue (f : Field) : Value :=
  .record [("name", f.name), ("type", f.type), ("description", f.description)]

def toValue (c : Catalog) : Value :=
  .record
    [("version", c.version),
     ("table", .record [("name", c.tableName), ("description", c.description),
       ("fields", .list (c.fields.map fieldValue))]),
     ("vocabulary", .record [("products", .list c.products), ("regions", .list c.regions)]),
     ("select", .record [("preview_rows", .int c.previewRows)])]

end Catalog

end TableTalk
