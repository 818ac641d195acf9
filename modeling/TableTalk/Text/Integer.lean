import TableTalk.Text.Blank

/-!
# TableTalk.Text.Integer

Integers written as text. Two rules are in use: the wide one, for integers in a catalog, admits the
decimal digits of every script; the plain one, for settings, admits ASCII digits and a fraction of
zeros. Both admit a sign, leading zeros, single low lines between digits, and blanks around it all.
-/

namespace TableTalk.Text

/-- The zeros of the decimal digits of Unicode 14; each is followed by its digits one to nine. -/
def digitZeros : List Nat :=
  [0x30, 0x660, 0x6f0, 0x7c0, 0x966, 0x9e6, 0xa66, 0xae6, 0xb66, 0xbe6, 0xc66, 0xce6, 0xd66, 0xde6,
   0xe50, 0xed0, 0xf20, 0x1040, 0x1090, 0x17e0, 0x1810, 0x1946, 0x19d0, 0x1a80, 0x1a90, 0x1b50,
   0x1bb0, 0x1c40, 0x1c50, 0xa620, 0xa8d0, 0xa900, 0xa9d0, 0xa9f0, 0xaa50, 0xabf0, 0xff10, 0x104a0,
   0x10d30, 0x11066, 0x110f0, 0x11136, 0x111d0, 0x112f0, 0x11450, 0x114d0, 0x11650, 0x116c0,
   0x11730, 0x118e0, 0x11950, 0x11c50, 0x11d50, 0x11da0, 0x16a60, 0x16ac0, 0x16b50, 0x1d7ce,
   0x1d7d8, 0x1d7e2, 0x1d7ec, 0x1d7f6, 0x1e140, 0x1e2f0, 0x1e950, 0x1fbf0]

def digitValue? (c : Char) : Option Nat :=
  (digitZeros.find? fun first => first ≤ c.toNat && c.toNat ≤ first + 9).map (c.toNat - ·)

def asciiDigit? (c : Char) : Option Nat :=
  if '0' ≤ c && c ≤ '9' then some (c.toNat - '0'.toNat) else none

/-- The value of a letter that stands for a digit from ten on. -/
def letterDigit? (c : Char) : Option Nat :=
  if 'a' ≤ c && c ≤ 'z' then some (c.toNat - 'a'.toNat + 10)
  else if 'A' ≤ c && c ≤ 'Z' then some (c.toNat - 'A'.toNat + 10)
  else none

/-- The value of a digit to a base: a decimal digit of any script, or a letter. -/
def digitOf? (base : Nat) (c : Char) : Option Nat :=
  ((digitValue? c).or (letterDigit? c)).filter (· < base)

/-- The number whose digits follow a number of value `n`; a low line stands only between digits. -/
def digitsAfter? (base : Nat) (digit? : Char → Option Nat) (n : Nat) : List Char → Option Nat
  | [] => some n
  | [c] => (digit? c).map (base * n + ·)
  | c :: d :: r =>
    if c = '_' then
      (digit? d).bind fun v => digitsAfter? base digit? (base * n + v) r
    else
      (digit? c).bind fun v => digitsAfter? base digit? (base * n + v) (d :: r)

/-- The number that a text of digits writes: at least one digit, a digit first. -/
def natural? (base : Nat) (digit? : Char → Option Nat) : List Char → Option Nat
  | [] => none
  | c :: r => (digit? c).bind fun v => digitsAfter? base digit? v r

/-- The integer that an optional sign and the text of a number write. -/
def signed? (number? : List Char → Option Nat) : List Char → Option Int
  | '+' :: r => (number? r).map fun n => (n : Int)
  | '-' :: r => (number? r).map fun n => -(n : Int)
  | s => (number? s).map fun n => (n : Int)

/-- Whether a character may stand around a written integer: a blank that is no information
separator. -/
def isPadding (c : Char) : Bool :=
  isBlank c && !('\x1c' ≤ c && c ≤ '\x1f')

/-- A text without the characters at its two ends that satisfy `p`. -/
def trimBy (p : Char → Bool) (s : List Char) : List Char :=
  ((s.dropWhile p).reverse.dropWhile p).reverse

/-- Whether a text starts with a minus sign, and what follows its sign if it has one. -/
def splitSign : List Char → Bool × List Char
  | '-' :: r => (true, r)
  | '+' :: r => (false, r)
  | s => (false, s)

/-- The letter that marks digits to a base, behind a zero. -/
def baseMark? (base : Nat) : Option Char :=
  if base = 2 then some 'b' else if base = 8 then some 'o' else if base = 16 then some 'x' else none

-- Digits to a base without the mark of the base before them. A low line may follow the mark.
def dropBaseMark (base : Nat) : List Char → List Char
  | zero :: mark :: r =>
    if digitValue? zero = some 0 && (baseMark? base).any (· = mark.toLower) then
      match r with
      | '_' :: r' => r'
      | r => r
    else zero :: mark :: r
  | s => s

/-- Why a text writes no integer. -/
inductive IntegerFault where
  | malformed
  -- It has this many digits.
  | tooLong (digits : Nat)
  deriving DecidableEq, Repr

/-- Whether the number of digits to a base is bounded: it is unless they are read off in groups of
bits. -/
def isBounded (base : Nat) : Bool :=
  base ≠ 2 && base ≠ 8 && base ≠ 16

/-- The number that the digits at the front of a text write to a base, which may be at most `most`,
and the rest. -/
def readNatural (most base : Nat) (s : List Char) : Except IntegerFault (Nat × List Char) :=
  let (run, rest) := s.span fun c => c = '_' || (digitOf? base c).isSome
  let digits := (run.filter (· ≠ '_')).length
  let wellFormed := run.head? ≠ some '_' && run.getLast? ≠ some '_'
  if isBounded base && most < digits && wellFormed && !hasDoubleLine run then
    .error (.tooLong digits)
  else
    match natural? base (digitOf? base) run with
    | some n => .ok (n, rest)
    | none => .error .malformed
where
  -- Whether two low lines stand next to each other.
  hasDoubleLine : List Char → Bool
    | [] => false
    | [_] => false
    | c :: d :: r => c = '_' && d = '_' || hasDoubleLine (d :: r)

/-- The integer written by a text to a base under the wide rule, with at most `most` digits. -/
def readInteger (most base : Nat) (s : List Char) : Except IntegerFault Int := do
  let (negative, r) := splitSign (trimBy isPadding s)
  let (n, rest) ← readNatural most base (dropBaseMark base r)
  if rest.isEmpty then return if negative then -(n : Int) else n else throw .malformed

/-- A text without a fraction of zeros at its end; a lone point counts as one. -/
def dropZeroFraction (s : List Char) : List Char :=
  match s.span (· != '.') with
  | (whole, _ :: fraction) => if fraction.all (· == '0') then whole else s
  | (_, []) => s

/-- The integer written by a text under the plain rule. -/
def plainInteger? (s : List Char) : Option Int :=
  signed? (fun t => natural? 10 asciiDigit? (dropZeroFraction t)) (trimBy isPadding s)

end TableTalk.Text
