import TableTalk.Text.Printable.Table
import TableTalk.Text.Case
import TableTalk.Text.Encoding

/-!
# TableTalk.Text.Quoted

Text written between quotes for a message: single quotes unless the text holds one and no double
quote, and an escape for every character that would not show as itself. Bytes are written the same
way behind a `b`, those of ASCII as characters.
-/

namespace TableTalk.Text

/-- Whether a character has a visible form of its own. -/
def isVisible (c : Char) : Bool :=
  !inRanges c.toNat hiddenRanges

/-- The last `width` hexadecimal digits of `n`. -/
def hexDigits (width n : Nat) : List Char :=
  match width with
  | 0 => []
  | w + 1 => hexDigits w (n / 16) ++ [Nat.digitChar (n % 16)]

/-- The escape of a character or half of a pair by its number, in the shortest of the three widths
that holds it. -/
def escapeCode (n : Nat) : List Char :=
  if n < 0x100 then ['\\', 'x'] ++ hexDigits 2 n
  else if n < 0x10000 then ['\\', 'u'] ++ hexDigits 4 n
  else ['\\', 'U'] ++ hexDigits 8 n

/-- How a character is written between the quotes `quote`. -/
def escapeChar (quote c : Char) : List Char :=
  if c = quote || c = '\\' then ['\\', c]
  else if c = '\t' then ['\\', 't']
  else if c = '\n' then ['\\', 'n']
  else if c = '\r' then ['\\', 'r']
  else if isVisible c then [c]
  else escapeCode c.toNat

/-- The quote that a text is written between. -/
def quoteFor (s : List Char) : Char :=
  if s.contains '\x27' && !s.contains '\x22' then '\x22' else '\x27'

def quoted (s : List Char) : List Char :=
  let quote := quoteFor s
  quote :: s.flatMap (escapeChar quote) ++ [quote]

/-- How a character or half of a pair with this number is written between the quotes `quote`. -/
def escapeNumber (quote : Char) (code : Nat) : List Char :=
  if isHalf code then escapeCode code else escapeChar quote (charOf code)

/-- Characters and halves of pairs between quotes, with escapes. -/
def quotedCodes (codes : List Nat) : List Char :=
  let quote := quoteFor (codes.map charOf)
  quote :: codes.flatMap (escapeNumber quote) ++ [quote]

/-- How a byte is written between the quotes `quote`. -/
def escapeByte (quote : Char) (byte : UInt8) : List Char :=
  let c := Char.ofNat byte.toNat
  if byte < 0x7f then escapeChar quote c else escapeCode byte.toNat

/-- Bytes between quotes, with escapes. -/
def quotedBytes (bytes : List UInt8) : List Char :=
  let quote := quoteFor (bytes.map fun byte => Char.ofNat byte.toNat)
  'b' :: quote :: bytes.flatMap (escapeByte quote) ++ [quote]

end TableTalk.Text
