import TableTalk.Json.Reader
import TableTalk.Yaml.Cursor

/-!
# TableTalk.Yaml.Token

The parts that a YAML text is made of, and the reading of those that are names: anchors, tags and
directives. Where a text goes wrong is a part of it too, so that what is wrong before shows first.
-/

namespace TableTalk.Yaml

/-- What a directive says of the document that follows it. -/
inductive Directive where
  -- The first number of the version.
  | version (major : Nat)
  -- What a handle in a tag stands for.
  | handle (name target : String)
  | other
  deriving DecidableEq, Repr

/-- A part of a text. The start and the end of a block collection, and the key of a block mapping,
are parts of their own, though nothing may stand for them in the text. -/
inductive Token where
  | directive (d : Directive)
  | documentStart
  | documentEnd
  | blockSequence
  | blockMapping
  | blockEnd
  | flowSequence
  | flowSequenceEnd
  | flowMapping
  | flowMappingEnd
  | flowEntry
  | blockEntry
  | key
  | value
  | reference (name : String)
  | anchor (name : String)
  | tag (handle : Option String) (suffix : String)
  -- A text by the numbers of its characters, among which halves of pairs may stand alone.
  | scalar (plain : Bool) (codes : List Nat)
  -- A place where the text goes wrong; nothing follows it.
  | broken (e : Error)
  deriving DecidableEq, Repr

/-- The result of taking a text apart. -/
abbrev Scan (α : Type) : Type :=
  Except Error α

def Scan.ofOption {α : Type} : Option α → Scan α
  | some a => .ok a
  | none => .error .malformedYaml

namespace Token

/-! ### Names -/

/-- Whether a character may stand in the name of an anchor, a handle or a directive. -/
def isNameChar (c : Char) : Bool :=
  '0' ≤ c && c ≤ '9' || 'A' ≤ c && c ≤ 'Z' || 'a' ≤ c && c ≤ 'z' || c = '-' || c = '_'

/-- The characters besides letters and digits that may stand in a tag. -/
def tagMarks : List Char :=
  ['-', ';', '/', '?', ':', '@', '&', '=', '+', '$', ',', '_', '.', '!', '~', '*', '\x27', '(', ')',
   '[', ']']

def readName (c : Cursor) : Option (String × Cursor) :=
  let (name, c') := c.takeWhile isNameChar
  if name.isEmpty then none else some (.ofList name, c')

def readAnchor (c : Cursor) : Option (String × Cursor) := do
  let (name, c') ← readName c
  let closes := c'.next?.any ['?', ':', ',', ']', '\x7d', '%', '@', '\x60'].contains
  if endsWord c'.next? || closes then return (name, c') else none

/-! ### Tags -/

/-- The bytes at the front that are written by a percent sign and two hexadecimal digits each, and
the rest. -/
def readBytes : List Char → Option (List UInt8 × List Char)
  | '%' :: x :: y :: rest => do
    let high ← Json.hexValue? x
    let low ← Json.hexValue? y
    let (bytes, rest') ← readBytes rest
    return (.ofNat (16 * high + low) :: bytes, rest')
  | '%' :: _ => none
  | rest => some ([], rest)

/-- The text of a tag at the front, in which bytes of UTF-8 may be written as numbers. -/
def tagText : Nat → List Char → Option (List Char × List Char)
  | 0, s => some ([], s)
  | _, [] => some ([], [])
  | fuel + 1, c :: rest =>
    if c = '%' then do
      let (bytes, rest') ← readBytes (c :: rest)
      let decoded ← String.fromUTF8? ⟨bytes.toArray⟩
      let (t, r) ← tagText fuel rest'
      return (decoded.toList ++ t, r)
    else if isNameChar c || tagMarks.contains c then
      (tagText fuel rest).map fun (t, r) => (c :: t, r)
    else some ([], c :: rest)

/-- The text of a tag here, which is not empty, and the place behind it. -/
def readTagText (c : Cursor) : Option (String × Cursor) := do
  let (text, rest) ← tagText c.rest.length c.rest
  let length := c.rest.length - rest.length
  if length = 0 then none else return (.ofList text, c.skip length)

/-- The handle of a tag here: one exclamation mark, or a name between two. -/
def readHandle (c : Cursor) : Option (String × Cursor) :=
  if c.next? ≠ some '!' then none
  else if c.second? == some ' ' then some ("!", c.advance)
  else
    let (name, c') := c.advance.takeWhile isNameChar
    if c'.next? == some '!' then some (.ofList ('!' :: name ++ ['!']), c'.advance) else none

/-- The tag here, and the place behind it: a text between angle brackets, or a handle and a text. -/
def readTag (c : Cursor) : Option (Token × Cursor) := do
  let (token, c') ←
    if c.second? == some '<' then do
      let (text, c') ← readTagText (c.skip 2)
      if c'.next? == some '>' then pure (tag none text, c'.advance) else none
    else if endsWord c.second? then pure (tag none "!", c.advance)
    else if (c.rest.drop 1).takeWhile (fun x => !endsItem (some x)) |>.contains '!' then do
      let (handle, c') ← readHandle c
      let (text, c'') ← readTagText c'
      pure (tag (some handle) text, c'')
    else do
      let (text, c') ← readTagText c.advance
      pure (tag (some "!") text, c')
  if endsItem c'.next? then return (token, c') else none

/-! ### Directives -/

def readNumber (c : Cursor) : Option (Nat × Cursor) :=
  let (digits, c') := c.takeWhile Char.isDigit
  if digits.isEmpty then none else some (Json.ofDigits digits, c')

/-- The first of the two numbers of a version, and the place behind both. -/
def readVersion (c : Cursor) : Option (Directive × Cursor) := do
  let (major, c') ← readNumber (c.skipWhile (· == ' '))
  if c'.next? ≠ some '.' then none
  else
    let (_, c'') ← readNumber c'.advance
    if endsItem c''.next? then return (.version major, c'') else none

/-- A handle and what it stands for, and the place behind both. -/
def readHandleTarget (c : Cursor) : Option (Directive × Cursor) := do
  let (name, c') ← readHandle (c.skipWhile (· == ' '))
  if c'.next? ≠ some ' ' then none
  else
    let (target, c'') ← readTagText (c'.skipWhile (· == ' '))
    if endsItem c''.next? then return (.handle name target, c'') else none

/-- The directive behind its percent sign, to the end of its line. -/
def readDirective (c : Cursor) : Option (Token × Cursor) := do
  let (name, c') ← readName c
  if !endsItem c'.next? then none
  else
    let (d, c'') ←
      if name = "YAML" then readVersion c'
      else if name = "TAG" then readHandleTarget c'
      else pure (.other, c'.skipLine)
    let r ← c''.skipEmptyRest?
    return (directive d, r.skipBreak)

end Token

end TableTalk.Yaml
