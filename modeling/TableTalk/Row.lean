import TableTalk.Value
import TableTalk.Calendar

/-!
# TableTalk.Row

The rows of a table: one sale each.
-/

namespace TableTalk

/-- One sale. The product and the region are entries of a vocabulary, and mostly texts. -/
structure Row where
  id : Int
  product : Value
  region : Value
  amount : Number
  date : Timestamp

namespace Row

def toValue (r : Row) : Value :=
  .record [("id", .int r.id), ("product", r.product), ("region", r.region),
    ("amount", .number r.amount), ("date", .text r.date.isoText)]

end Row

/-- The items between two positions; a negative position is counted from the end, and one beyond an
end stands at that end. -/
def slice {α : Type} (start stop : Int) (items : List α) : List α :=
  let position (i : Int) : Nat := if i < 0 then items.length - i.natAbs else i.toNat
  (items.take (position stop)).drop (position start)

end TableTalk
