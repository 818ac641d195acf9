import TableTalk.Number
import TableTalk.Text.Encoding

/-!
# TableTalk.Value

Values of no fixed kind, as they stand in a JSON text or a catalog file: scalars, lists, and objects
whose keys are scalars in the order of their first appearance. Bytes, dates, pairs and sets occur in
catalog files only, and so do collections that stand in themselves.
-/

namespace TableTalk

/-- A value without parts. -/
inductive Scalar where
  | null
  | bool (b : Bool)
  | number (n : Number)
  | text (s : String)
  -- A text in which halves of pairs stand alone, by the numbers of its characters and halves.
  | torn (codes : List Nat)
  | bytes (content : List UInt8)
  -- A date, whose time of day does not count.
  | date (day : Timestamp)
  -- A date with a time of day, and by how many minutes it is before universal time if that is
  -- known.
  | moment (time : Timestamp) (offset : Option Int)
  deriving DecidableEq, Repr

def Scalar.ofCodes (codes : List Nat) : Scalar :=
  if codes.any Text.isHalf then torn codes else text (.ofList (codes.map Char.ofNat))

/-- A value of any kind. -/
inductive Value where
  | scalar (s : Scalar)
  | list (items : List Value)
  | pair (first second : Value)
  | set (members : List Scalar)
  | object (fields : List (Scalar × Value))
  -- A list or an object that this stands in itself.
  | enclosing (isObject : Bool)

namespace Value

@[match_pattern] abbrev null : Value := scalar .null

@[match_pattern] abbrev bool (b : Bool) : Value := scalar (.bool b)

@[match_pattern] abbrev number (n : Number) : Value := scalar (.number n)

@[match_pattern] abbrev int (i : Int) : Value := scalar (.number (.int i))

@[match_pattern] abbrev text (s : String) : Value := scalar (.text s)

@[match_pattern] abbrev torn (codes : List Nat) : Value := scalar (.torn codes)

@[match_pattern] abbrev bytes (content : List UInt8) : Value := scalar (.bytes content)

@[match_pattern] abbrev date (day : Timestamp) : Value := scalar (.date day)

@[match_pattern] abbrev moment (time : Timestamp) (offset : Option Int) : Value :=
  scalar (.moment time offset)

instance : Inhabited Value := ⟨null⟩

def record (fields : List (String × Value)) : Value :=
  object (fields.map fun (key, value) => (.text key, value))

def texts (items : List String) : Value :=
  list (items.map text)

def ofText? : Option String → Value
  | some s => text s
  | none => null

def find? (key : String) (fields : List (Scalar × Value)) : Option Value :=
  (fields.find? fun (k, _) => k = .text key).map (·.2)

/-- The fields of an object after `key` is set to `value`: in place if the key is there, else at the
end. -/
def setField (key : Scalar) (value : Value) : List (Scalar × Value) → List (Scalar × Value)
  | [] => [(key, value)]
  | (k, v) :: rest => if k = key then (k, value) :: rest else (k, v) :: setField key value rest

/-- Whether a value counts as nothing: null, false, zero, or empty. -/
def isNothing : Value → Bool
  | null => true
  | bool b => !b
  | number n => n.isZero
  | text s => s.isEmpty
  | torn codes => codes.isEmpty
  | bytes content => content.isEmpty
  | date _ | moment .. | pair .. | enclosing _ => false
  | list items => items.isEmpty
  | set members => members.isEmpty
  | object fields => fields.isEmpty

/-- The name of a value's kind, as messages give it. -/
def kindName : Value → String
  | null => "NoneType"
  | bool _ => "bool"
  | int _ => "int"
  | number _ => "float"
  | text _ | torn _ => "str"
  | bytes _ => "bytes"
  | date _ => "datetime.date"
  | moment .. => "datetime.datetime"
  | list _ | enclosing false => "list"
  | pair .. => "tuple"
  | set _ => "set"
  | object _ | enclosing true => "dict"

def shortKindName (v : Value) : String :=
  .ofList (v.kindName.toList.reverse.takeWhile (· ≠ '.')).reverse

/-- A byte of a capital letter of ASCII as that of the small one. -/
def lowerByte (byte : UInt8) : UInt8 :=
  if 0x41 ≤ byte && byte ≤ 0x5a then byte + 0x20 else byte

-- Characters of one kind in lower case: halves of pairs have no case.
def lowerRun (codes : List Nat) : List Nat :=
  if codes.any Text.isHalf then codes
  else (Text.lower (codes.map Char.ofNat)).map Char.toNat

/-- The text or the bytes that a value is, in lower case. -/
def lowered : Value → Except Error Scalar
  | text s => .ok (.text s.lowered)
  | torn codes =>
    .ok (.torn ((codes.splitBy fun a b => Text.isHalf a == Text.isHalf b).flatMap lowerRun))
  | bytes content => .ok (.bytes (content.map lowerByte))
  | v => .error (.textExpected v.kindName)

end Value

end TableTalk
