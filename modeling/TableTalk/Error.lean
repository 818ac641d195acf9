import TableTalk.Calendar
import TableTalk.Text.Quoted

/-!
# TableTalk.Error

Why a request fails. An error is a cause; its message is a function of the cause, and of the wording
of those that read catalog files and check input. What is wrong with input that was checked field by
field is a list of faults, each with the place where it was found and the value that was found
there.
-/

namespace TableTalk

/-! ### Faults -/

/-- One step on the way to a place in checked input. -/
inductive Step where
  | key (name : String)
  | index (position : Nat)
  deriving DecidableEq, Repr

inductive FaultKind where
  | stringExpected
  -- Bytes that are no text.
  | stringUnreadable
  | listExpected
  | operationExpected
  | filtersExpected
  | integerExpected
  | integerTooLong
  | unknownKey
  | missing
  | bodyExpected
  | malformedJson
  deriving DecidableEq, Repr

def FaultKind.label : FaultKind → String
  | stringExpected => "string_type"
  | stringUnreadable => "string_unicode"
  | listExpected => "list_type"
  | operationExpected => "enum"
  | filtersExpected => "model_type"
  | integerExpected => "int_parsing"
  | integerTooLong => "int_parsing_size"
  | unknownKey => "extra_forbidden"
  | missing => "missing"
  | bodyExpected => "model_attributes_type"
  | malformedJson => "json_invalid"

def FaultKind.message : FaultKind → String
  | stringExpected => "Input should be a valid string"
  | stringUnreadable =>
    "Input should be a valid string, unable to parse raw data as a unicode string"
  | listExpected => "Input should be a valid list"
  | operationExpected => "Input should be 'SELECT', 'COUNT', 'SUM' or 'AVG'"
  | filtersExpected => "Input should be a valid dictionary or instance of FilterSet"
  | integerExpected => "Input should be a valid integer, unable to parse string as an integer"
  | integerTooLong => "Unable to parse input string as an integer, exceeded maximum size"
  | unknownKey => "Extra inputs are not permitted"
  | missing => "Field required"
  | bodyExpected => "Input should be a valid dictionary or object to extract fields from"
  | malformedJson => "JSON decode error"

structure Sample where
  -- The value as it is written.
  written : String
  -- The name of its kind.
  kind : String
  deriving DecidableEq, Repr

structure Fault where
  kind : FaultKind
  place : List Step
  found : Option Sample := none
  deriving DecidableEq, Repr

def Fault.under (step : Step) (fault : Fault) : Fault :=
  { fault with place := step :: fault.place }

-- The longest start of a text that has at most so many bytes in UTF-8.
def startWithin : Nat → List Char → List Char
  | _, [] => []
  | bytes, c :: r => if c.utf8Size ≤ bytes then c :: startWithin (bytes - c.utf8Size) r else []

/-- The most bytes of a written value that a fault shows. -/
def shownSampleSize : Nat := 50

-- A written value as a fault shows it: of a long one the two ends.
def abridgedSample (s : List Char) : List Char :=
  if (String.ofList s).utf8ByteSize ≤ shownSampleSize then s
  else
    startWithin (shownSampleSize / 2) s ++ ['.', '.', '.'] ++
      (startWithin (shownSampleSize / 2 - 1) s.reverse).reverse

def Step.text : Step → List Char
  | key name => if name.contains '.' then '\x60' :: name.toList ++ ['\x60'] else name.toList
  | index position => Nat.toDigits 10 position

/-- The words of messages that others choose. -/
structure Wording where
  -- Where a kind of fault is explained.
  guide : FaultKind → String
  -- What is wrong with a catalog file that is no YAML.
  malformedYaml : String
  -- Why a text of these numbers cannot be written, in which halves of pairs stand alone.
  tornText : List Nat → String

/-- A fault in words: its place, its sentence with its kind and the value that was found, and where
it is explained. -/
def Fault.lines (w : Wording) (fault : Fault) : List (List Char) :=
  let found :=
    match fault.found with
    | none => []
    | some sample =>
      ", input_value=".toList ++ abridgedSample sample.written.toList ++ ", input_type=".toList ++
        sample.kind.toList
  [Text.join ['.'] (fault.place.map Step.text),
   "  ".toList ++ fault.kind.message.toList ++ " [type=".toList ++ fault.kind.label.toList ++
     found ++ [']'],
   "    For further information visit ".toList ++ (w.guide fault.kind).toList]

def faultText (w : Wording) (subject : String) (faults : List Fault) : String :=
  let head := Nat.toDigits 10 faults.length ++ " validation error".toList ++
    (if faults.length = 1 then [] else ['s']) ++ " for ".toList ++ subject.toList
  .ofList (Text.join ['\n'] (head :: faults.flatMap (Fault.lines w)))

/-! ### Errors -/

/-- What stands within others of its kind. -/
inductive Nesting where
  -- Lists of a JSON text.
  | list
  -- Objects of a JSON text.
  | object
  -- Nodes of a catalog file.
  | node
  deriving DecidableEq, Repr

/-- Why a request fails. -/
inductive Error where
  -- No statement was given, or a blank one.
  | missingStatement
  -- No question was given, or a blank one.
  | missingQuestion
  -- A statement to be explained does not follow the grammar.
  | malformedStatement
  -- A store holds no table of this name.
  | unknownTable (name : String)
  -- A mapping lacks a key it needs.
  | missingKey (key : String)
  -- A value of this kind stands where a text is needed.
  | textExpected (kind : String)
  -- A value of this kind stands where a section of a catalog is needed.
  | sectionExpected (kind : String)
  -- A value of this kind was asked for one of its fields.
  | noFields (kind : String)
  -- A value of this kind was asked for its entries.
  | noEntries (kind : String)
  -- A value of this kind was to be made an integer.
  | noInteger (kind : String)
  -- A value of this kind was to name a table.
  | noName (kind : String)
  -- A row of a store was to be changed.
  | frozenRow
  -- A table has no row at the position.
  | rowOutOfRange
  -- Rows were to be made from a vocabulary without products or regions.
  | emptyVocabulary
  -- What is shown here is no operation.
  | unknownOperation (shown : String)
  -- What is written so writes no integer in digits to this base.
  | notAnInteger (base : Nat) (written : String)
  -- An integer is written with this many digits.
  | integerTooLong (digits : Nat)
  -- What is written so writes no number of double precision.
  | notADouble (written : String)
  -- Nothing is written where a number is needed.
  | emptyNumber
  -- A text writes no date.
  | notADate
  -- A date has to be written as a text.
  | dateTextExpected
  -- A text writes a date that does not exist.
  | noSuchDate (fault : Timestamp.Fault)
  -- No character has this number.
  | noSuchCharacter (code : Nat)
  -- Bytes stand at the position among names that must be texts.
  | bytesAmongNames (position : Nat)
  | nanToInteger
  | infinityToInteger
  | integerTooLarge
  | malformedJson
  | malformedYaml
  -- Values stand too deep within each other.
  | tooDeep (nesting : Nesting)
  -- A value has no form in a response, or a text none in a file.
  | unwritable
  -- A text of these numbers was to be written, in which halves of pairs stand alone.
  | tornText (codes : List Nat)
  -- A text that is to be sent has other characters than those of ASCII.
  | notAscii (text : String)
  -- Checked input for a subject has these faults.
  | invalid (subject : String) (faults : List Fault)
  deriving DecidableEq, Repr

-- The most characters of a quoted text that a message about an integer shows.
def shownIntegerWidth : Nat := 200

-- The most digits that an integer may be written with.
def mostDigits : Nat := 4300

-- The bound of the numbers that are looked up as characters at all.
def characterBound : Nat := 0x80000000

def Nesting.text : Nesting → String
  | list => " while decoding a JSON array from a unicode string"
  | object => " while decoding a JSON object from a unicode string"
  | node => ""

/-- Where a text leaves ASCII, in words: the one character there, or the places of several. -/
def leavingAscii (text : List Char) : List Char :=
  let (before, rest) := text.span (·.toNat < 0x80)
  let place := Nat.toDigits 10 before.length
  match rest.takeWhile fun c => 0x80 ≤ c.toNat with
  | [c] => "character '".toList ++ Text.escapeCode c.toNat ++ "' in position ".toList ++ place
  | run =>
    "characters in position ".toList ++ place ++
      '-' :: Nat.toDigits 10 (before.length + run.length - 1)

/-- The message of an error; an error that is told by its kind alone has none. -/
def Error.message (w : Wording) : Error → String
  | missingStatement => "Query is required."
  | missingQuestion => "Missing query"
  | malformedStatement => "Invalid SQL query. Cannot explain."
  | unknownTable name => .ofList (Text.quoted name.toList)
  | missingKey key => .ofList (Text.quoted key.toList)
  | rowOutOfRange => "tuple index out of range"
  | emptyVocabulary => "integer modulo by zero"
  | unknownOperation shown => shown ++ " is not a valid OperationKind"
  | notAnInteger base written =>
    "invalid literal for int() with base " ++ .ofList (Nat.toDigits 10 base) ++ ": " ++
      .ofList (written.toList.take shownIntegerWidth)
  | integerTooLong digits =>
    "Exceeds the limit (" ++ .ofList (Nat.toDigits 10 mostDigits) ++
      " digits) for integer string conversion: value has " ++ .ofList (Nat.toDigits 10 digits) ++
      " digits; use sys.set_int_max_str_digits() to increase the limit"
  | notADouble written => "could not convert string to float: " ++ written
  | emptyNumber => "string index out of range"
  | notADate => "'NoneType' object has no attribute 'groupdict'"
  | dateTextExpected => "expected string or bytes-like object, got 'list'"
  | noSuchDate fault => fault.message
  | noSuchCharacter code =>
    if code < characterBound then "chr() arg not in range(0x110000)"
    else "Python int too large to convert to C int"
  | bytesAmongNames position =>
    "sequence item " ++ .ofList (Nat.toDigits 10 position) ++
      ": expected str instance, bytes found"
  | nanToInteger => "cannot convert float NaN to integer"
  | infinityToInteger => "cannot convert float infinity to integer"
  | integerTooLarge => "int too large to convert to float"
  | textExpected kind => "'" ++ kind ++ "' object has no attribute 'lower'"
  | sectionExpected kind => "'" ++ kind ++ "' object has no attribute 'get'"
  | noFields "str" => "string indices must be integers, not 'str'"
  | noFields "list" => "list indices must be integers or slices, not str"
  | noFields "tuple" => "tuple indices must be integers or slices, not str"
  | noFields "bytes" => "byte indices must be integers or slices, not str"
  | noFields kind => "'" ++ kind ++ "' object is not subscriptable"
  | noEntries kind => "'" ++ kind ++ "' object is not iterable"
  | noInteger kind =>
    "int() argument must be a string, a bytes-like object or a real number, not '" ++ kind ++ "'"
  | noName kind => "unhashable type: '" ++ kind ++ "'"
  | notAscii text =>
    "'ascii' codec can't encode " ++ .ofList (leavingAscii text.toList) ++
      ": ordinal not in range(128)"
  | tooDeep nesting => "maximum recursion depth exceeded" ++ nesting.text
  | invalid subject faults => faultText w subject faults
  | malformedYaml => w.malformedYaml
  | tornText codes => w.tornText codes
  | frozenRow | malformedJson | unwritable => ""

end TableTalk
