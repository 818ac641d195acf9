/-!
# TableTalk.Yaml.Cursor

A place in a YAML text: the characters that follow it, and where it is. Lines end at a line feed and
at three further characters of Unicode; other ends of line are gone from the text before it is read.
-/

namespace TableTalk.Yaml

/-- Whether a character ends a line. -/
def isBreak (c : Char) : Bool :=
  c = '\n' || c = '\u0085' || c = '\u2028' || c = '\u2029'

/-- Whether a character is a space or a tab. -/
def isSpace (c : Char) : Bool :=
  c = ' ' || c = '\t'

/-- Whether a line ends here, at what follows. -/
def endsLine : Option Char → Bool
  | none => true
  | some c => isBreak c

/-- Whether an item ends here: with its line, or at a space. -/
def endsItem (next : Option Char) : Bool :=
  next == some ' ' || endsLine next

/-- Whether a word ends here: with its line, at a space or at a tab. -/
def endsWord (next : Option Char) : Bool :=
  next == some '\t' || endsItem next

/-- A place in a text. -/
structure Cursor where
  -- What follows the place.
  rest : List Char
  -- The number of characters before the place.
  index : Nat := 0
  -- The number of line ends before the place.
  line : Nat := 0
  -- The number of characters before the place in its line; a mark of byte order does not count.
  column : Nat := 0

namespace Cursor

def next? (c : Cursor) : Option Char :=
  c.rest.head?

def second? (c : Cursor) : Option Char :=
  c.rest[1]?

def advance (c : Cursor) : Cursor :=
  match c.rest with
  | [] => c
  | x :: rest =>
    if isBreak x then ⟨rest, c.index + 1, c.line + 1, 0⟩
    else ⟨rest, c.index + 1, c.line, if x = '\ufeff' then c.column else c.column + 1⟩

def skip : Nat → Cursor → Cursor
  | 0, c => c
  | n + 1, c => skip n c.advance

def takeWhile (p : Char → Bool) (c : Cursor) : List Char × Cursor :=
  let taken := c.rest.takeWhile p
  (taken, c.skip taken.length)

def skipWhile (p : Char → Bool) (c : Cursor) : Cursor :=
  (c.takeWhile p).2

def skipLine (c : Cursor) : Cursor :=
  c.skipWhile (!isBreak ·)

/-- The end of line that stands here, as a text keeps it, and the place behind it. -/
def break? (c : Cursor) : Option (Char × Cursor) :=
  match c.next? with
  | some x => if isBreak x then some (if x = '\u0085' then '\n' else x, c.advance) else none
  | none => none

def skipBreak (c : Cursor) : Cursor :=
  match c.break? with
  | some (_, c') => c'
  | none => c

/-- Whether three of this character stand here as a word. -/
def atTriple (x : Char) (c : Cursor) : Bool :=
  c.rest.take 3 == [x, x, x] && endsWord c.rest[3]?

/-- Whether the mark of the start or the end of a document stands here. -/
def atMarker (c : Cursor) : Bool :=
  c.atTriple '-' || c.atTriple '.'

/-- The place before the end of the line, if only spaces and a comment stand before it. -/
def skipEmptyRest? (c : Cursor) : Option Cursor :=
  let c' := c.skipWhile (· == ' ')
  if c'.next? == some '#' then some c'.skipLine
  else if endsLine c'.next? then some c'
  else none

end Cursor

/-- What several ends of line amount to between two parts of a text that is written on several
lines: a single one is a space, and of more the first counts for nothing. -/
def fold (first : Char) (others : List Char) : List Char :=
  if first ≠ '\n' then first :: others
  else if others.isEmpty then [' ']
  else others

end TableTalk.Yaml
