import TableTalk.Value.Display

/-!
# TableTalk.Value.Portable

The form of values that are sent to another program: only what JSON has a form for, under keys that
are texts. Dates are texts, pairs and sets are lists, and a number that is not finite is null. Bytes
that are no text, texts in which halves of pairs stand alone, and collections that stand in
themselves have no such form.
-/

namespace TableTalk

/-- A date with a time of day for another program; universal time has a letter. -/
def Timestamp.portableText (t : Timestamp) (offset : Option Int) : List Char :=
  t.isoTextWith 'T' ++
    match offset with
    | none => []
    | some minutes => if minutes = 0 then ['Z'] else Timestamp.offsetText minutes

namespace Scalar

/-- The text that bytes are. -/
def textOfBytes? (content : List UInt8) : Option String :=
  String.fromUTF8? ⟨content.toArray⟩

def portable? : Scalar → Option Scalar
  | number (.double (.infinite _)) | number (.double .nan) => some null
  | bytes content => (textOfBytes? content).map text
  | torn _ => none
  | date day => some (text (.ofList day.dateText))
  | moment time offset => some (text (.ofList (time.portableText offset)))
  | s => some s

def portableKey? : Scalar → Option String
  | bool true => some "true"
  | bool false => some "false"
  | bytes content => textOfBytes? content
  | torn _ => none
  | moment time offset => some (.ofList (time.portableText offset))
  | s => some (.ofList s.shown)

end Scalar

namespace Value

mutual

/-- A value for another program. -/
def portable? : Value → Option Value
  | scalar s => s.portable?.map scalar
  | list items => (portableItems? items).map list
  | pair first second => do
    let a ← portable? first
    let b ← portable? second
    return list [a, b]
  | set members => (members.mapM Scalar.portable?).map fun scalars => list (scalars.map scalar)
  | object fields => (portableFields? fields).map object
  | enclosing _ => none

def portableItems? : List Value → Option (List Value)
  | [] => some []
  | item :: rest => do
    let first ← portable? item
    let others ← portableItems? rest
    return first :: others

def portableFields? : List (Scalar × Value) → Option (List (Scalar × Value))
  | [] => some []
  | (key, value) :: rest => do
    let name ← key.portableKey?
    let first ← portable? value
    let others ← portableFields? rest
    return (.text name, first) :: others

end

end Value

end TableTalk
