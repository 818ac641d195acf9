import TableTalk.Json.Reader
import TableTalk.Number.Reading

/-!
# TableTalk.Yaml.Kind

What a node is. A tag says it, and a plain text without a tag shows it by its form: a few words
stand for null, true and false, numbers may hold low lines and are written to the bases two, eight,
ten, sixteen or sixty, a number with a point needs a sign in its exponent, and a text may be a date.
Any other text is a text.
-/

namespace TableTalk.Yaml

/-- What a node is. -/
inductive Kind where
  | null
  | bool
  | integer
  | double
  | text
  | bytes
  | date
  | list
  | object
  | set
  -- A list of pairs.
  | pairs
  -- The mark of what is merged into a mapping, which is no value.
  | merge
  -- The mark of the value that stands for a whole mapping, which is no value.
  | default
  | unknown
  deriving DecidableEq, Repr

/-! ### Tags -/

/-- The start of the tags that are known. -/
def tagFamily : String := "tag:yaml.org,2002:"

/-- The kinds that have a tag, with the end of it. -/
def taggedKinds : List (String × Kind) :=
  [("null", .null), ("bool", .bool), ("int", .integer), ("float", .double), ("str", .text),
   ("binary", .bytes), ("timestamp", .date), ("seq", .list), ("map", .object), ("set", .set),
   ("omap", .pairs), ("pairs", .pairs), ("merge", .merge), ("value", .default)]

def Kind.ofTag (tag : String) : Kind :=
  ((taggedKinds.find? fun (name, _) => tag = tagFamily ++ name).map (·.2)).getD .unknown

/-! ### Words -/

def nullWords : List String :=
  ["", "~", "null", "Null", "NULL"]

def truthWords : List (String × Bool) :=
  [("yes", true), ("no", false), ("true", true), ("false", false), ("on", true), ("off", false)]

/-- The ways to write a word: in lower case, with a capital, and in capitals. -/
def spellings (word : String) : List String :=
  [word, word.capitalize, word.toUpper]

def isTruth (s : String) : Bool :=
  truthWords.any fun (word, _) => (spellings word).contains s

/-! ### Numbers -/

def isDigitOrLine (c : Char) : Bool :=
  c.isDigit || c = '_'

def splitColons : List Char → List (List Char)
  | [] => [[]]
  | c :: r =>
    if c = ':' then [] :: splitColons r
    else
      match splitColons r with
      | [] => [[c]]
      | p :: ps => (c :: p) :: ps

/-- Whether a piece is a number below sixty, of one or two digits. -/
def isSixtieth : List Char → Bool
  | [a] => a.isDigit
  | [a, b] => '0' ≤ a && a ≤ '5' && b.isDigit
  | _ => false

/-- Whether pieces are a number to the base sixty: a number with a digit first, and at least one
piece below sixty. -/
def areSixties : List (List Char) → Bool
  | first :: second :: rest =>
    first.head?.any Char.isDigit && first.all isDigitOrLine && (second :: rest).all isSixtieth
  | _ => false

def isNatural : List Char → Bool
  | [] => false
  | ['0'] => true
  | '0' :: 'b' :: r => !r.isEmpty && r.all fun c => c = '0' || c = '1' || c = '_'
  | '0' :: 'x' :: r => !r.isEmpty && r.all fun c => (Json.hexValue? c).isSome || c = '_'
  | '0' :: r => r.all fun c => '0' ≤ c && c ≤ '7' || c = '_'
  | c :: r =>
    '1' ≤ c && c ≤ '9' && (r.all isDigitOrLine || areSixties (splitColons (c :: r)))

def isInteger (s : List Char) : Bool :=
  isNatural (Text.splitSign s).2

def isExponent : List Char → Bool
  | [] => true
  | e :: sign :: ds =>
    (e = 'e' || e = 'E') && (sign = '+' || sign = '-') && !ds.isEmpty && ds.all Char.isDigit
  | _ => false

-- Whether a text has the form of a number with a point to the base ten. A number that starts with
-- the point has a digit behind it, and no sign before it.
def isDecimal (s : List Char) : Bool :=
  let (whole, r) := (Text.splitSign s).2.span isDigitOrLine
  match r with
  | '.' :: r' =>
    let (fraction, r'') := r'.span isDigitOrLine
    (if whole.isEmpty then s.head? == some '.' && fraction.head?.any Char.isDigit
      else whole.head?.any Char.isDigit) && isExponent r''
  | _ => false

-- Whether a text has the form of a number with a point to the base sixty, where only the last
-- piece has a fraction.
def isSexagesimal (s : List Char) : Bool :=
  let (pieces, fraction) := (Text.splitSign s).2.span (· != '.')
  match fraction with
  | '.' :: places => areSixties (splitColons pieces) && places.all isDigitOrLine
  | _ => false

/-- Whether a text is a word for infinity, which may have a sign, or for what is not a number. -/
def isNamedDouble (s : List Char) : Bool :=
  ["inf", "Inf", "INF"].any (fun w => (Text.splitSign s).2 = '.' :: w.toList) ||
    ["nan", "NaN", "NAN"].any fun w => s = '.' :: w.toList

def isDouble (s : List Char) : Bool :=
  isDecimal s || isSexagesimal s || isNamedDouble s

/-! ### Dates -/

/-- What a text writes as a date. -/
structure DateText where
  -- Year, month and day, and the time of day if there is one.
  time : Timestamp
  hasTime : Bool := false
  -- By how many minutes the time is before universal time, if that is written.
  offset : Option Int := none

/-- The number of between `least` and `most` digits at the front, and the rest. -/
def readNumber? (least most : Nat) (s : List Char) : Option (Nat × List Char) :=
  let (ds, r) := s.span Char.isDigit
  if least ≤ ds.length && ds.length ≤ most then some (Json.ofDigits ds, r) else none

/-- What follows a character. -/
def after? (c : Char) : List Char → Option (List Char)
  | [] => none
  | d :: r => if d = c then some r else none

/-- The microseconds of a fraction of a second, of which six digits count. -/
def microseconds (fraction : List Char) : Nat :=
  let shown := fraction.take 6
  Json.ofDigits (shown ++ List.replicate (6 - shown.length) '0')

/-- The offset from universal time that a text is, behind blanks; none if it is empty. -/
def readOffset? (s : List Char) : Option (Option Int) := do
  match s, s.dropWhile fun c => c = ' ' || c = '\t' with
  | [], _ => some none
  | _, ['Z'] => some (some 0)
  | _, sign :: r =>
    if sign = '+' || sign = '-' then
      let (hours, r) ← readNumber? 1 2 r
      let (minutes, r) ←
        match r with
        | ':' :: r => readNumber? 2 2 r
        | r => pure (0, r)
      let offset : Int := hours * 60 + minutes
      if r.isEmpty then return some (if sign = '-' then -offset else offset) else none
    else none
  | _, [] => none

/-- What a text writes as a date, or as a date with a time of day behind a letter or blanks. -/
def DateText.read? (s : List Char) : Option DateText := do
  let (year, r) ← readNumber? 4 4 s
  let (month, r) ← (after? '-' r).bind (readNumber? 1 2)
  let (day, r) ← (after? '-' r).bind (readNumber? 1 2)
  let date : Timestamp := { year, month, day }
  match r with
  | [] => return { time := date }
  | c :: r =>
    let r ←
      if c = 'T' || c = 't' then some r
      else if c = ' ' || c = '\t' then some (r.dropWhile fun c => c = ' ' || c = '\t')
      else none
    let (hour, r) ← readNumber? 1 2 r
    let (minute, r) ← (after? ':' r).bind (readNumber? 2 2)
    let (second, r) ← (after? ':' r).bind (readNumber? 2 2)
    let (fraction, r) :=
      match r with
      | '.' :: r => r.span Char.isDigit
      | r => ([], r)
    let offset ← readOffset? r
    return {
      time := { date with hour, minute, second, microsecond := microseconds fraction }
      hasTime := true
      offset }

/-- The length of a date with all its digits. -/
def dateLength : Nat := 10

/-- Whether a text has the form of a date; without a time of day it needs all its digits. -/
def isDate (s : List Char) : Bool :=
  (DateText.read? s).any fun d => d.hasTime || s.length = dateLength

/-! ### Plain texts -/

/-- A text without the line feed at its end. -/
def dropFinalBreak (s : List Char) : List Char :=
  if s.getLast? = some '\n' then s.dropLast else s

/-- The mark of what is merged into a mapping. -/
def mergeMark : String := "<<"

/-- The mark of the value that stands for a whole mapping. -/
def defaultMark : String := "="

/-- What a plain text shows itself to be. A line feed at its end does not count, but for a text of
nothing else. -/
def Kind.ofPlain (written : String) : Kind :=
  let cs := dropFinalBreak written.toList
  let s := String.ofList cs
  if s.isEmpty && !written.isEmpty then .text
  else if isTruth s then .bool
  else if isDouble cs then .double
  else if isInteger cs then .integer
  else if s = mergeMark then .merge
  else if nullWords.contains s then .null
  else if isDate cs then .date
  else if s = defaultMark then .default
  else .text

end TableTalk.Yaml
