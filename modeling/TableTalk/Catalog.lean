import TableTalk.Value

/-!
# TableTalk.Catalog

What is known of the one table that questions are about: its name and fields, the names of products
and regions that occur in it, and how many rows a selection shows. Entries that a catalog file gives
are kept as they are, so that a name need not be a text.
-/

namespace TableTalk

structure Field where
  name : Value
  type : Value
  description : Value

structure Catalog where
  version : Value
  tableName : Value
  description : Value
  fields : List Field
  products : List Value
  regions : List Value
  -- The end of the rows that a selection shows, counted from the last row if negative.
  previewRows : Int

namespace Catalog

-- The names in lower case; each must be a text or bytes.
def keywords : List Value → Except Error (List Scalar)
  | [] => .ok []
  | name :: rest => do
    let first ← name.lowered
    let others ← keywords rest
    return first :: others

-- Names as they are looked for in questions, from a position on; each must be a text. One in which
-- halves of pairs stand alone is in no question.
def searchable (position : Nat) : List Scalar → Except Error (List String)
  | [] => .ok []
  | .text name :: rest => do
    let others ← searchable (position + 1) rest
    return name :: others
  | .torn _ :: rest => searchable (position + 1) rest
  | _ :: _ => .error (.bytesAmongNames position)

def productKeywords (c : Catalog) : Except Error (List Scalar) :=
  keywords c.products

/-- The products in lower case, as they are looked for in questions. -/
def productNames (c : Catalog) : Except Error (List String) := do
  searchable 0 (← c.productKeywords)

def regionKeywords (c : Catalog) : Except Error (List Scalar) :=
  keywords c.regions

def sales : Catalog where
  version := .int 1
  tableName := .text "sales"
  description := .text "Seeded sales transactions, one row per sale."
  fields :=
    [⟨.text "id", .text "integer", .text "Unique, positive row identifier"⟩,
     ⟨.text "product", .text "enum", .text "Product sold"⟩,
     ⟨.text "region", .text "enum", .text "Sales region"⟩,
     ⟨.text "amount", .text "number", .text "Sale amount"⟩,
     ⟨.text "date", .text "datetime", .text "Sale timestamp"⟩]
  products := [.text "Laptop", .text "Phone", .text "Tablet"]
  regions := [.text "North", .text "South", .text "East", .text "West"]
  previewRows := 5

end Catalog

end TableTalk
