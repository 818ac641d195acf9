import TableTalk.Number.Double

/-!
# TableTalk.Number.Shortest

The fewest decimal digits that read back as a given number of double precision, and the text made of
them: positional for moderate exponents, in powers of ten beyond.
-/

namespace TableTalk.Double

/-- Decimal digits, without a zero at the end, and the position of the point counted from the front:
they stand for `0.d₁d₂… * 10 ^ point`. -/
structure Digits where
  digits : List Char
  point : Int

/-- `m * 10 ^ e` compared with `num / den`, as a pair of natural numbers in the same order. -/
def scaled (m : Nat) (e : Int) (num den : Nat) : Nat × Nat :=
  if 0 ≤ e then (m * tenTo e.toNat * den, num) else (m * den, num * tenTo (-e).toNat)

/-- The integer part of the decimal logarithm of `units` units. -/
def decimalExponent (units : Nat) : Int :=
  let guess := ((units.log2 : Int) - places) * 30103 / 100000
  let reaches (e : Int) : Bool := let (a, b) := scaled 1 e units one; a ≤ b
  if reaches (guess + 1) then guess + 1 else if reaches guess then guess else guess - 1

/-- Whether `m * 10 ^ e` rounds to the number of `units` units. -/
def roundsTo (units m : Nat) (e : Int) : Bool :=
  if 0 ≤ e then round false (m * tenTo e.toNat * one) 1 = finite false units
  else round false (m * one) (tenTo (-e).toNat) = finite false units

/-- The decimals of exponent `e` around `units` units that read back as them, the nearer first. -/
def neighbours (units : Nat) (e : Int) : List Nat :=
  let low := if 0 ≤ e then units / (tenTo e.toNat * one) else units * tenTo (-e).toNat / one
  let (a, b) := scaled (2 * low + 1) e (2 * units) one
  let ordered := if b < a || (b = a && low % 2 = 0) then [low, low + 1] else [low + 1, low]
  ordered.filter (roundsTo units · e)

-- The first decimal that reads back, among those of `count`, `count + 1`, … digits.
def search (units : Nat) (top : Int) : Nat → Int → Nat × Int
  | 0, e => ((neighbours units e).headD 0, e)
  | fuel + 1, e =>
    match neighbours units e with
    | m :: _ => (m, e)
    | [] => search units top fuel (e - 1)

/-- The shortest digits of a positive finite number; seventeen always suffice. -/
def shortest (units : Nat) : Digits :=
  let top := decimalExponent units
  let (m, e) := search units top 16 top
  let all := Nat.toDigits 10 m
  ⟨((all.reverse.dropWhile (· == '0')).reverse), e + all.length⟩

def twoDigits (n : Nat) : List Char :=
  if n < 10 then '0' :: Nat.toDigits 10 n else Nat.toDigits 10 n

/-- The text of digits: positional while the first digit stands at most four places behind the point
and at most sixteen before it, else in powers of ten. -/
def Digits.text (d : Digits) : List Char :=
  let count : Int := d.digits.length
  if d.point ≤ -4 || 16 < d.point then
    let power := d.point - 1
    d.digits.take 1 ++ (if count = 1 then [] else '.' :: d.digits.drop 1) ++
      ['e', if power < 0 then '-' else '+'] ++ twoDigits power.natAbs
  else if d.point ≤ 0 then
    ['0', '.'] ++ List.replicate (-d.point).toNat '0' ++ d.digits
  else if count ≤ d.point then
    d.digits ++ List.replicate (d.point - count).toNat '0' ++ ['.', '0']
  else
    d.digits.take d.point.toNat ++ '.' :: d.digits.drop d.point.toNat

def text : Double → List Char
  | nan => ['n', 'a', 'n']
  | infinite negative => (if negative then ['-'] else []) ++ ['i', 'n', 'f']
  | finite negative units =>
    (if negative then ['-'] else []) ++
      (if units = 0 then ['0', '.', '0'] else (shortest units).text)

/-- The text of a number rounded to a whole one, a tie to the even one; the sign of zero is kept. -/
def wholeText : Double → List Char
  | nan => ['n', 'a', 'n']
  | infinite negative => (if negative then ['-'] else []) ++ ['i', 'n', 'f']
  | finite negative units =>
    (if negative then ['-'] else []) ++ Nat.toDigits 10 (nearestWhole units)

end TableTalk.Double
