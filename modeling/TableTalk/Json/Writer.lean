import TableTalk.Value.Display

/-!
# TableTalk.Json.Writer

Values as compact JSON text. Characters that JSON admits unescaped stand as they are, and a half of
a pair that stands alone is written as its number; a key that is no text is written as its text.
What JSON has no form for is written as a string that shows it, and pairs and sets as lists.
-/

namespace TableTalk.Json

-- A character inside a string: an escape for a quote, a backslash or a control character, and else
-- the character itself.
def writeChar (c : Char) : List Char :=
  if c = '\x22' then ['\\', '\x22']
  else if c = '\\' then ['\\', '\\']
  else if c = '\x08' then ['\\', 'b']
  else if c = '\t' then ['\\', 't']
  else if c = '\n' then ['\\', 'n']
  else if c = '\x0c' then ['\\', 'f']
  else if c = '\r' then ['\\', 'r']
  else if c < ' ' then ['\\', 'u'] ++ Text.hexDigits 4 c.toNat
  else [c]

/-- A string between its quotes. -/
def writeString (s : List Char) : List Char :=
  '\x22' :: s.flatMap writeChar ++ ['\x22']

def writeCode (code : Nat) : List Char :=
  if Text.isHalf code then ['\\', 'u'] ++ Text.hexDigits 4 code else writeChar (Text.charOf code)

def writeCodes (codes : List Nat) : List Char :=
  '\x22' :: codes.flatMap writeCode ++ ['\x22']

/-- A scalar; a number that is not finite has no JSON form and is written as null. -/
def writeScalar : Scalar → List Char
  | .null => ['n', 'u', 'l', 'l']
  | .bool true => ['t', 'r', 'u', 'e']
  | .bool false => ['f', 'a', 'l', 's', 'e']
  | .number (.int i) => Number.intText i
  | .number (.double (.finite negative units)) => (Double.finite negative units).text
  | .number (.double _) => ['n', 'u', 'l', 'l']
  | .torn codes => writeCodes codes
  | s => writeString s.shown

/-- The name of a number that is not finite. -/
def infinityName (negative : Bool) : List Char :=
  (if negative then ['-'] else []) ++ "Infinity".toList

-- The string that a key is written as; a number that is not finite has a name as a key.
def writeKey : Scalar → List Char
  | .number (.double (.infinite negative)) => writeString (infinityName negative)
  | .number (.double .nan) => writeString "NaN".toList
  | .null => writeString (writeScalar .null)
  | .bool b => writeString (writeScalar (.bool b))
  | .torn codes => writeCodes codes
  | key => writeString key.shown

mutual

def write : Value → List Char
  | .scalar s => writeScalar s
  | .list items => '[' :: writeItems items
  | .pair first second => '[' :: write first ++ ',' :: write second ++ [']']
  | .set members => '[' :: Text.join [','] (members.map writeScalar) ++ [']']
  | .object fields => '\x7b' :: writeFields fields
  | .enclosing isObject => writeString (Value.enclosing isObject).written

def writeItems : List Value → List Char
  | [] => [']']
  | [item] => write item ++ [']']
  | item :: next :: rest => write item ++ ',' :: writeItems (next :: rest)

def writeFields : List (Scalar × Value) → List Char
  | [] => ['\x7d']
  | [(key, value)] => writeKey key ++ ':' :: write value ++ ['\x7d']
  | (key, value) :: next :: rest =>
    writeKey key ++ ':' :: write value ++ ',' :: writeFields (next :: rest)

end

end TableTalk.Json
