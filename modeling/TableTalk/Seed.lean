import TableTalk.Seed.Twister
import TableTalk.Catalog
import TableTalk.Row

/-!
# TableTalk.Seed

Sales made up from a catalog: products and regions take turns, dates go through the year, and only
the amounts are drawn at random, from a seed.
-/

namespace TableTalk

namespace Seed

def leastAmount : Nat := 100

def year : Int := 2023

def amountsFrom (t : Twister) (count : Nat) : Twister × Array Nat :=
  Nat.repeat (fun (t, amounts) =>
    let (k, t') := t.draw
    (t', amounts.push (leastAmount + k))) count (t, #[])

def amounts (seed : Int) (count : Nat) : List Nat :=
  (amountsFrom (Twister.ofSeed seed) count).2.toList

/-- The sale at a position, counted from zero, with an amount. -/
def saleAt (catalog : Catalog) (i amount : Nat) : Row where
  id := i + 1
  product := catalog.products.getD (i % catalog.products.length) .null
  region := catalog.regions.getD (i % catalog.regions.length) .null
  amount := .int amount
  date := { year, month := i % 12 + 1, day := i % 28 + 1 }

/-- A number of sales, none if it is negative. Sales need a product and a region. -/
def sales (catalog : Catalog) (count seed : Int) : Except Error (List Row) :=
  if 0 < count && (catalog.products.isEmpty || catalog.regions.isEmpty) then
    .error .emptyVocabulary
  else
    .ok ((amounts seed count.toNat).mapIdx (saleAt catalog))

def defaultCount : Int := 100

def defaultSeed : Int := 42

end Seed

end TableTalk
