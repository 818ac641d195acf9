import TableTalk.Number
import TableTalk.Text.Decimal

/-!
# TableTalk.Number.Reading

Numbers from texts, where a text that writes none is an error which shows the text.
-/

namespace TableTalk.Number

def readIntegerAs (written : List Char) (base : Nat) (s : List Char) : Except Error Int :=
  (Text.readInteger mostDigits base s).mapError fun
    | .malformed => .notAnInteger base (.ofList written)
    | .tooLong digits => .integerTooLong digits

def readInteger (base : Nat) (s : List Char) : Except Error Int :=
  readIntegerAs (Text.quoted s) base s

/-- The integer that a text writes in which halves of pairs stand alone: none, since no half is part
of a number. -/
def readIntegerCodes (codes : List Nat) : Except Error Int :=
  readIntegerAs (Text.quotedCodes codes) 10 (codes.map Text.charOf)

-- The character of a byte of ASCII; any other byte is no part of a number.
def asciiChar (byte : UInt8) : Char :=
  if byte < 0x80 then Char.ofNat byte.toNat else '\ufffd'

def readIntegerBytes (bytes : List UInt8) : Except Error Int :=
  readIntegerAs (Text.quotedBytes bytes) 10 (bytes.map asciiChar)

/-- The number of double precision that a text writes. -/
def readDouble (s : List Char) : Except Error Double :=
  match Text.double? s with
  | some x => .ok x
  | none => .error (.notADouble (.ofList (Text.quoted s)))

end TableTalk.Number
