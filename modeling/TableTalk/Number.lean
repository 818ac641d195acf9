import TableTalk.Number.Shortest
import TableTalk.Error

/-!
# TableTalk.Number

Numbers as they occur in rows, catalogs and clocks: integers of any size, and numbers of double
precision. The two kinds stay apart: a sum of integers is an integer, and only a sum in which a
number of double precision takes part is one.
-/

namespace TableTalk

/-- An integer or a number of double precision. -/
inductive Number where
  | int (i : Int)
  | double (x : Double)
  deriving DecidableEq, Repr

namespace Number

-- The number that an integer is rounded to, unless the integer is beyond the range of the finite
-- ones.
def inRange : Double → Except Error Double
  | .finite negative units => .ok (.finite negative units)
  | _ => .error .integerTooLarge

/-- The number in double precision; an integer beyond its range is refused. -/
def toDouble : Number → Except Error Double
  | int i => inRange (Double.ofInt i)
  | double x => .ok x

def add : Number → Number → Except Error Number
  | int i, int j => .ok (int (i + j))
  | a, b => do
    let x ← a.toDouble
    let y ← b.toDouble
    return double (x.add y)

def sub : Number → Number → Except Error Number
  | int i, int j => .ok (int (i - j))
  | a, b => do
    let x ← a.toDouble
    let y ← b.toDouble
    return double (x.add y.neg)

def mul : Number → Number → Except Error Number
  | int i, int j => .ok (int (i * j))
  | a, b => do
    let x ← a.toDouble
    let y ← b.toDouble
    return double (x.mul y)

/-- The integer that is left when what stands behind the point is dropped. -/
def truncate : Number → Except Error Int
  | int i => .ok i
  | double (.finite negative units) => .ok (Double.signed negative (units / Double.one))
  | double (.infinite _) => .error .infinityToInteger
  | double .nan => .error .nanToInteger

def equalsInt (i : Int) : Number → Bool
  | int j => i = j
  | double (.finite negative units) => Double.signed negative units = i * Double.one
  | double _ => false

def isZero : Number → Bool
  | int i => i = 0
  | double (.finite _ units) => units = 0
  | double _ => false

def intText (i : Int) : List Char :=
  (if i < 0 then ['-'] else []) ++ Nat.toDigits 10 i.natAbs

def text : Number → List Char
  | int i => intText i
  | double x => x.text

end Number

end TableTalk
