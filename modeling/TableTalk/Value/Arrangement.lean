import TableTalk.Value

/-!
# TableTalk.Value.Arrangement

The order of the members of a set. Members stand in the slots of a table, whose number is a power of
two. The way of a member goes from the slot that its mark names to some neighbours, and from there
by leaps that at last come to every slot; it stands in the first free one. Numbers that are equal
have one mark. Members of which one has no mark keep the order in which they were given.
-/

namespace TableTalk

namespace Scalar

/-! ### Marks -/

/-- The number of different marks. -/
def markBound : Nat := Double.twoTo 64

/-- The prime number modulo which numbers are marked. -/
def markModulus : Nat := Double.twoTo 61 - 1

/-- The mark of the infinite number. -/
def infinityMark : Nat := 314159

-- The mark of a number with a sign, given its size modulo the prime. Minus one is marked as minus
-- two.
def signedMark (negative : Bool) (size : Nat) : Nat :=
  if !negative || size = 0 then size
  else if size = 1 then markBound - 2
  else markBound - size

-- The mark of a scalar, if it has one. The unit of numbers of double precision is a power of two,
-- as which modulo the prime the exponent counts modulo 61.
def mark? : Scalar → Option Nat
  | bool b => some b.toNat
  | number (.int i) => some (signedMark (i < 0) (i.natAbs % markModulus))
  | number (.double (.finite negative units)) =>
    let unit := Double.twoTo (61 - Double.places % 61)
    some (signedMark negative (units * unit % markModulus))
  | number (.double (.infinite negative)) => some (signedMark negative infinityMark)
  | _ => none

/-! ### Slots -/

/-- How many slots a table has for so many members. -/
def slotCount (members : Nat) : Nat :=
  if 5 * members < 21 then 8 else Double.twoTo ((2 * members).log2 + 1)

/-- How many neighbours of a slot are tried, if there are as many. -/
def neighbours : Nat := 9

-- The slots that are tried before the next leap.
def nearby (count slot : Nat) : List Nat :=
  if slot + neighbours < count then (List.range (neighbours + 1)).map (slot + ·) else [slot]

-- The first free slot on a way from a slot on; `stir` is what is left of the mark. It is used up
-- by some leaps, and the leaps behind them come to each slot once.
def freeSlot (table : Array (Option Scalar)) : Nat → Nat → Nat → Nat
  | 0, _, slot => slot
  | fuel + 1, stir, slot =>
    match (nearby table.size slot).find? fun i => (table.getD i none).isNone with
    | some i => i
    | none =>
      let stir := stir / 32
      freeSlot table fuel stir ((5 * slot + 1 + stir) % table.size)

/-- The table with one more member. -/
def placed (table : Array (Option Scalar)) (member : Scalar × Nat) : Array (Option Scalar) :=
  let slot := freeSlot table (table.size + 13) member.2 (member.2 % table.size)
  table.setIfInBounds slot (some member.1)

/-- Different scalars in the order in which a set holds them. -/
def arranged (members : List Scalar) : List Scalar :=
  match members.mapM mark? with
  | none => members
  | some marks =>
    ((members.zip marks).foldl placed (.replicate (slotCount members.length) none)).toList.filterMap
      id

end Scalar

end TableTalk
