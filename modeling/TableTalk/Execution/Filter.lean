import TableTalk.Row
import TableTalk.Intent

/-!
# TableTalk.Execution.Filter

The rows that pass a set of filters. A row passes if its region in lower case is among the admitted
regions and its product in lower case is the admitted product. A condition that is looked at needs a
text or bytes, of which only a text can be admitted; a product is looked at only if the region
passes.
-/

namespace TableTalk

namespace FilterSet

def admitsRegion (f : FilterSet) (row : Row) : Except Error Bool :=
  match f.region with
  | none => .ok true
  | some names => row.region.lowered.map fun name => names.any fun n => name = .text n

def admitsProduct (f : FilterSet) (row : Row) : Except Error Bool :=
  match f.product with
  | none => .ok true
  | some product => row.product.lowered.map fun name => name = .text product

def admits (f : FilterSet) (row : Row) : Except Error Bool := do
  if ← f.admitsRegion row then f.admitsProduct row else return false

/-- The rows that pass the filters, in order. -/
def apply (f : FilterSet) : List Row → Except Error (List Row)
  | [] => .ok []
  | row :: rows => do
    let admitted ← f.admits row
    let rest ← f.apply rows
    return if admitted then row :: rest else rest

end FilterSet

end TableTalk
