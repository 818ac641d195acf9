/-!
# TableTalk.Number.Double

Numbers of double precision: infinities, what is not a number, and the finite ones, which are whole
multiples of the unit `2 ^ (-1074)`. All arithmetic is exact on these multiples and rounds once, to
the nearest number that has 53 significant binary digits, a tie to the even one.
-/

namespace TableTalk

/-- A number of double precision. A finite one is `units` times `2 ^ (-1074)`, with a sign that zero
has too. -/
inductive Double where
  | finite (negative : Bool) (units : Nat)
  | infinite (negative : Bool)
  | nan
  deriving DecidableEq, Repr

namespace Double

def twoTo (n : Nat) : Nat := Nat.pow 2 n

def tenTo (n : Nat) : Nat := Nat.pow 10 n

-- How many binary places a unit stands behind the point.
def places : Nat := 1074

/-- How many significant binary digits a number has. -/
def precision : Nat := 53

def one : Nat := twoTo places

/-- The bound of the finite numbers, in units. -/
def limit : Nat := twoTo (places + 1024)

/-- The whole number nearest to `num / den`, a tie to the even one. -/
def nearest (num den : Nat) : Nat :=
  let low := num / den
  let twice := 2 * (num % den)
  if twice < den then low
  else if twice = den then low + low % 2
  else low + 1

/-- The distance, in units, of the numbers around `units`. -/
def spacing (units : Nat) : Nat :=
  twoTo (units.log2 + 1 - precision)

/-- The finite number of the given sign nearest to `num / den` units, infinite if there is none
within the limit. -/
def round (negative : Bool) (num den : Nat) : Double :=
  let step := spacing (num / den)
  let units := nearest num (den * step) * step
  if units < limit then finite negative units else infinite negative

/-! ### Bits -/

/-- The number that a pattern of 64 bits stands for. -/
def ofBits (bits : Nat) : Double :=
  let negative := bits / twoTo 63 % 2 = 1
  let exponent := bits / twoTo 52 % twoTo 11
  let fraction := bits % twoTo 52
  if exponent = 2047 then
    if fraction = 0 then infinite negative else nan
  else if exponent = 0 then finite negative fraction
  else finite negative ((twoTo 52 + fraction) * twoTo (exponent - 1))

def toBits : Double → Nat
  | finite negative units =>
    negative.toNat * twoTo 63 +
      (if units < twoTo 52 then units
       else (units.log2 - 52) * twoTo 52 + units / twoTo (units.log2 - 52))
  | infinite negative => negative.toNat * twoTo 63 + 2047 * twoTo 52
  | nan => 2047 * twoTo 52 + twoTo 51

/-! ### Arithmetic -/

def ofInt (i : Int) : Double :=
  round (i < 0) (i.natAbs * one) 1

/-- The number nearest to `m * 10 ^ e`. An exponent so far out that every such number rounds to zero
or to infinity is not computed with. -/
def ofDecimal (negative : Bool) (m : Nat) (e : Int) : Double :=
  let digits : Int := (Nat.toDigits 10 m).length
  if m = 0 || digits + e < -400 then finite negative 0
  else if digits + e > 400 then infinite negative
  else if 0 ≤ e then round negative (m * tenTo e.toNat * one) 1
  else round negative (m * one) (tenTo (-e).toNat)

/-- The number nearest to the quotient of two integers. -/
def ofRatio (num : Int) (den : Nat) : Double :=
  round (num < 0) (num.natAbs * one) den

/-- A finite number, in units with its sign. -/
def signed (negative : Bool) (units : Nat) : Int :=
  if negative then -(units : Int) else units

/-- The sum, rounded. A sum of zero is negative only if both parts are. -/
def add : Double → Double → Double
  | finite n u, finite m v =>
    let sum := signed n u + signed m v
    if sum = 0 then finite (n && m) 0 else round (sum < 0) sum.natAbs 1
  | nan, _ | _, nan => nan
  | infinite n, infinite m => if n = m then infinite n else nan
  | infinite n, finite _ _ => infinite n
  | finite _ _, infinite m => infinite m

def neg : Double → Double
  | finite n u => finite (!n) u
  | infinite n => infinite (!n)
  | nan => nan

def mul : Double → Double → Double
  | finite n u, finite m v => round (n != m) (u * v) one
  | nan, _ | _, nan => nan
  | infinite n, infinite m => infinite (n != m)
  | infinite n, finite m v => if v = 0 then nan else infinite (n != m)
  | finite n u, infinite m => if u = 0 then nan else infinite (n != m)

/-- The integer nearest to a finite number, a tie to the even one, without its sign. -/
def nearestWhole (units : Nat) : Nat :=
  nearest units one

end Double

end TableTalk
