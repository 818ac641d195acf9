/-!
# TableTalk.Text.Encoding

Characters as numbers, and texts as bytes. A character beyond the first 65536 may be written as a
pair of halves, which are numbers of no character. A half that stands alone is kept as its number,
and where a character is needed the replacement character shows it. Which encoding bytes are in
shows from a mark of byte order at their front, or else from the zeros among the first of them.
-/

namespace TableTalk.Text

/-! ### Halves of pairs -/

/-- Whether a number is the first half of a pair that writes one character. -/
def isHighHalf (n : Nat) : Bool :=
  0xd800 ≤ n && n ≤ 0xdbff

/-- Whether a number is the second half of a pair that writes one character. -/
def isLowHalf (n : Nat) : Bool :=
  0xdc00 ≤ n && n ≤ 0xdfff

/-- Whether a number is half of a pair that writes one character. -/
def isHalf (n : Nat) : Bool :=
  isHighHalf n || isLowHalf n

def joined (high low : Nat) : Nat :=
  0x10000 + 0x400 * (high - 0xd800) + (low - 0xdc00)

/-- The character of a number; a half without its partner is shown by the replacement character. -/
def charOf (n : Nat) : Char :=
  if isHalf n then '\ufffd' else Char.ofNat n

/-- No character is half of a pair. -/
theorem isHalf_toNat (c : Char) : isHalf c.toNat = false := by
  have valid : c.toNat < 0xd800 ∨ 0xdfff < c.toNat ∧ c.toNat < 0x110000 := c.valid
  simp only [isHalf, isHighHalf, isLowHalf, Bool.or_eq_false_iff, Bool.and_eq_false_iff,
    decide_eq_false_iff_not]
  omega

theorem charOf_toNat (c : Char) : charOf c.toNat = c := by
  rw [charOf, isHalf_toNat, if_neg Bool.false_ne_true, Char.ofNat_toNat]

/-- Numbers with each first half and the second half behind it in one. -/
def joinHalves : List Nat → List Nat
  | [] => []
  | [n] => [n]
  | high :: low :: rest =>
    if isHighHalf high && isLowHalf low then joined high low :: joinHalves rest
    else high :: joinHalves (low :: rest)

/-! ### Signs -/

/-- What a text is made of: characters, or the numbers of characters, among which halves of pairs
may stand alone. -/
class Sign (α : Type) where
  -- The character that a sign shows as.
  shown : α → Char
  -- The number of a sign.
  code : α → Nat

instance : Sign Char := ⟨id, Char.toNat⟩

instance : Sign Nat := ⟨charOf, id⟩

@[simp] theorem shown_char (c : Char) : Sign.shown c = c := rfl

@[simp] theorem code_char (c : Char) : Sign.code c = c.toNat := rfl

@[simp] theorem shown_toNat (c : Char) : Sign.shown c.toNat = c := charOf_toNat c

/-! ### Encodings -/

/-- How the numbers of characters are written as bytes. -/
inductive Encoding where
  | utf8
  -- Two bytes a number, or a half of a pair; the greater one may come first.
  | utf16 (greaterFirst : Bool)
  -- Four bytes a number; the greatest one may come first.
  | utf32 (greatestFirst : Bool)
  deriving DecidableEq, Repr

namespace Encoding

/-- The marks of byte order, and the encodings that they show. Of two that begin alike the longer
one comes first. -/
def marks : List (List UInt8 × Encoding) :=
  [([0x00, 0x00, 0xfe, 0xff], utf32 true), ([0xff, 0xfe, 0x00, 0x00], utf32 false),
   ([0xfe, 0xff], utf16 true), ([0xff, 0xfe], utf16 false), ([0xef, 0xbb, 0xbf], utf8)]

-- The encoding of bytes by where the first of them are zero, given that an ASCII character comes
-- first and, in more than three bytes, that another one follows.
def ofZeros : List UInt8 → Encoding
  | a :: b :: c :: d :: _ =>
    if a = 0 then if b = 0 then utf32 true else utf16 true
    else if b = 0 then if c = 0 && d = 0 then utf32 false else utf16 false
    else utf8
  | [a, b] => if a = 0 then utf16 true else if b = 0 then utf16 false else utf8
  | _ => utf8

/-- The encoding of bytes, and the bytes behind the mark of it. -/
def ofBytes (bytes : List UInt8) : Encoding × List UInt8 :=
  match marks.find? fun mark => mark.1.isPrefixOf bytes with
  | some (mark, encoding) => (encoding, bytes.drop mark.length)
  | none => (ofZeros bytes, bytes)

end Encoding

/-- The number that a first byte and those behind it write together, of which `high` is the part of
the first byte. The bytes behind it bring six bits each, and a number that fewer bytes can write is
not written like this. -/
def joinTails (least high : Nat) (tails : List UInt8) : Option Nat :=
  let n := tails.foldl (fun n tail => 0x40 * n + (tail.toNat - 0x80)) high
  if tails.all (fun tail => 0x80 ≤ tail && tail < 0xc0) && least ≤ n && n < 0x110000 then some n
  else none

/-- The numbers that bytes write by UTF-8, where a half of a pair is written like a character. -/
def codes8? : List UInt8 → Option (List Nat)
  | [] => some []
  | a :: rest =>
    if a < 0x80 then (codes8? rest).map (a.toNat :: ·)
    else if a < 0xe0 then
      match rest with
      | b :: rest => do return (← joinTails 0x80 (a.toNat - 0xc0) [b]) :: (← codes8? rest)
      | _ => none
    else if a < 0xf0 then
      match rest with
      | b :: c :: rest => do
        return (← joinTails 0x800 (a.toNat - 0xe0) [b, c]) :: (← codes8? rest)
      | _ => none
    else
      match rest with
      | b :: c :: d :: rest => do
        return (← joinTails 0x10000 (a.toNat - 0xf0) [b, c, d]) :: (← codes8? rest)
      | _ => none

/-- The numbers that bytes write two by two. -/
def units16? (greaterFirst : Bool) : List UInt8 → Option (List Nat)
  | [] => some []
  | [_] => none
  | a :: b :: rest => (units16? greaterFirst rest).map fun units =>
    (if greaterFirst then 0x100 * a.toNat + b.toNat else 0x100 * b.toNat + a.toNat) :: units

/-- The numbers that pairs of 16-bit units write, the greater unit of a pair first or last. -/
def units32? (greatestFirst : Bool) : List Nat → Option (List Nat)
  | [] => some []
  | [_] => none
  | a :: b :: rest =>
    let n := if greatestFirst then 0x10000 * a + b else 0x10000 * b + a
    if n < 0x110000 then (units32? greatestFirst rest).map (n :: ·) else none

/-- The numbers of the characters that bytes write, if they keep to the encoding that they show;
halves of pairs that stand alone are among them. -/
def decode? (bytes : List UInt8) : Option (List Nat) :=
  match Encoding.ofBytes bytes with
  | (.utf8, content) => codes8? content
  | (.utf16 greaterFirst, content) => (units16? greaterFirst content).map joinHalves
  | (.utf32 greatestFirst, content) => do
    units32? greatestFirst (← units16? greatestFirst content)

end TableTalk.Text
