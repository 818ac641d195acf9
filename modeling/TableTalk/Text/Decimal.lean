import TableTalk.Number.Double
import TableTalk.Text.Integer

/-!
# TableTalk.Text.Decimal

Numbers of double precision written as text: decimal digits of any script with a point and an
exponent, or a word for infinity or for what is not a number, behind a sign and between blanks.
-/

namespace TableTalk.Text

def infinityWords : List (List Char) :=
  ["inf".toList, "infinity".toList]

def nanWord : List Char := "nan".toList

/-- The values of the digits at the front, and the rest. -/
def readDecimals (s : List Char) : List Nat × List Char :=
  let (run, rest) := s.span fun c => (digitValue? c).isSome
  (run.filterMap digitValue?, rest)

def ofDecimals (digits : List Nat) : Nat :=
  digits.foldl (10 * · + ·) 0

/-- The exponent that a text is, zero if it is empty: a letter, a sign if there is one, and at least
one digit. -/
def decimalExponent? : List Char → Option Int
  | [] => some 0
  | e :: r =>
    if e = 'e' || e = 'E' then
      let (negative, r) := splitSign r
      match readDecimals r with
      | ([], _) | (_, _ :: _) => none
      | (digits, []) =>
        some (if negative then -(ofDecimals digits : Int) else ofDecimals digits)
    else none

/-- The number without a sign that a text writes with digits. -/
def decimal? (negative : Bool) (s : List Char) : Option Double :=
  let (whole, r) := readDecimals s
  let (fraction, r') :=
    match r with
    | '.' :: r' => readDecimals r'
    | r => ([], r)
  if whole.isEmpty && fraction.isEmpty then none
  else
    (decimalExponent? r').map fun exponent =>
      .ofDecimal negative (ofDecimals (whole ++ fraction)) (exponent - fraction.length)

/-- The number of double precision that a text writes. -/
def double? (s : List Char) : Option Double :=
  let (negative, r) := splitSign (trimBy isPadding s)
  let word := r.map Char.toLower
  if infinityWords.contains word then some (.infinite negative)
  else if word = nanWord then some .nan
  else decimal? negative r

end TableTalk.Text
