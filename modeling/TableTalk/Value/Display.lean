import TableTalk.Value

/-!
# TableTalk.Value.Display

The text that shows a value in a question, a pseudo-query or a message: a text and a date show as
themselves, and any other value as it would be written, texts inside it between quotes. A collection
that stands in itself is shown there by three points.
-/

namespace TableTalk

namespace Timestamp

def dateParts (t : Timestamp) : List Int :=
  [t.year, t.month, t.day]

/-- The numbers of a time of day down to the least part that is told: the minute, or a smaller part
that is not zero. -/
def timeParts (t : Timestamp) : List Int :=
  [(t.hour : Int), t.minute] ++
    if t.microsecond ≠ 0 then [(t.second : Int), t.microsecond]
    else if t.second ≠ 0 then [(t.second : Int)]
    else []

def offsetWritten (minutes : Int) : List Char :=
  "datetime.timezone".toList ++
    if minutes = 0 then ".utc".toList else '(' :: spanText minutes ++ [')']

def dateWritten (t : Timestamp) : List Char :=
  "datetime.date(".toList ++ Text.join [',', ' '] (t.dateParts.map Number.intText) ++ [')']

def momentWritten (t : Timestamp) (offset : Option Int) : List Char :=
  let zone := offset.map fun minutes => "tzinfo=".toList ++ offsetWritten minutes
  "datetime.datetime(".toList ++
    Text.join [',', ' '] ((t.dateParts ++ t.timeParts).map Number.intText ++ zone.toList) ++ [')']

/-- A date with a time of day as it shows, with a character between the two. -/
def momentText (between : Char) (t : Timestamp) (offset : Option Int) : List Char :=
  t.isoTextWith between ++ (offset.map offsetText).getD []

end Timestamp

namespace Scalar

/-- A scalar as it is written, a text between quotes. -/
def written : Scalar → List Char
  | null => ['N', 'o', 'n', 'e']
  | bool true => ['T', 'r', 'u', 'e']
  | bool false => ['F', 'a', 'l', 's', 'e']
  | number n => n.text
  | text s => Text.quoted s.toList
  | torn codes => Text.quotedCodes codes
  | bytes content => Text.quotedBytes content
  | date day => day.dateWritten
  | moment time offset => time.momentWritten offset

def shown : Scalar → List Char
  | text s => s.toList
  | torn codes => codes.map Text.charOf
  | date day => day.dateText
  | moment time offset => time.momentText ' ' offset
  | s => s.written

end Scalar

namespace Value

mutual

def written : Value → List Char
  | scalar s => s.written
  | list items => '[' :: writtenItems items
  | pair first second => '(' :: written first ++ ',' :: ' ' :: written second ++ [')']
  | set [] => ['s', 'e', 't', '(', ')']
  | set members => '\x7b' :: Text.join [',', ' '] (members.map Scalar.written) ++ ['\x7d']
  | object fields => '\x7b' :: writtenFields fields
  | enclosing false => ['[', '.', '.', '.', ']']
  | enclosing true => ['\x7b', '.', '.', '.', '\x7d']

def writtenItems : List Value → List Char
  | [] => [']']
  | [item] => written item ++ [']']
  | item :: next :: rest => written item ++ ',' :: ' ' :: writtenItems (next :: rest)

def writtenFields : List (Scalar × Value) → List Char
  | [] => ['\x7d']
  | [(key, value)] => key.written ++ ':' :: ' ' :: written value ++ ['\x7d']
  | (key, value) :: next :: rest =>
    key.written ++ ':' :: ' ' :: written value ++ ',' :: ' ' :: writtenFields (next :: rest)

end

def display : Value → String
  | scalar s => .ofList s.shown
  | v => .ofList v.written

theorem display_text (s : String) : (Value.text s).display = s :=
  String.ofList_toList

/-- A value as a fault shows it. -/
def sample (v : Value) : Sample :=
  ⟨.ofList v.written, v.shortKindName⟩

end Value

end TableTalk
