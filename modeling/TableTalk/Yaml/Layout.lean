import TableTalk.Yaml.Token
import TableTalk.Yaml.Quoted
import TableTalk.Yaml.Plain
import TableTalk.Yaml.Block

/-!
# TableTalk.Yaml.Layout

The parts of a text in order, where indentation is made explicit: each block collection has a start
and an end, and each key of a mapping is announced. A key without a mark of its own shows only by
the colon behind it, so that a place where one may have started is kept in mind until the line ends.
-/

namespace TableTalk.Yaml

/-- A place where a key may have started. -/
structure KeyStart where
  -- The number of parts before it.
  position : Nat
  -- Whether nothing but a key can start there.
  required : Bool
  place : Cursor

/-- The greatest length of a key without a mark. -/
def longestKey : Nat := 1024

/-- Whether the colon of a key that started there can still follow here. -/
def KeyStart.isOpen (k : KeyStart) (c : Cursor) : Bool :=
  k.place.line = c.line && c.index ≤ k.place.index + longestKey

/-- How far a text has been taken apart. -/
structure Layout where
  place : Cursor
  tokens : Array Token := #[]
  -- The columns of the block collections around the place, the innermost first.
  indents : List Nat := []
  -- Whether a key without a mark may start here.
  keyAllowed : Bool := true
  -- Where a key may have started in the innermost collection.
  keyStart : Option KeyStart := none
  -- Where keys may have started around each bracket that is open.
  outer : List (Option KeyStart) := []

namespace Layout

def inFlow (l : Layout) : Bool :=
  !l.outer.isEmpty

/-- The first column inside the innermost block collection. -/
def margin (l : Layout) : Nat :=
  match l.indents with
  | [] => 0
  | column :: _ => column + 1

def push (l : Layout) (t : Token) : Layout :=
  { l with tokens := l.tokens.push t }

def moved (l : Layout) (place : Cursor) : Layout :=
  { l with place }

/-! ### Keys -/

/-- What is kept of the start of a key at a later place; a key that is required must have come. -/
def expire (c : Cursor) (start : Option KeyStart) : Scan (Option KeyStart) :=
  match start with
  | none => .ok none
  | some k =>
    if k.isOpen c then .ok (some k)
    else if k.required then .error .malformedYaml
    else .ok none

def dropExpired (l : Layout) : Scan Layout := do
  let keyStart ← expire l.place l.keyStart
  let outer ← l.outer.mapM (expire l.place)
  return { l with keyStart, outer }

def dropKey (l : Layout) : Scan Layout :=
  if l.keyStart.any (·.required) then .error .malformedYaml else .ok { l with keyStart := none }

def startKey (l : Layout) : Scan Layout :=
  if l.keyAllowed then do
    let required := !l.inFlow && l.indents.head? == some l.place.column
    let l ← l.dropKey
    return { l with keyStart := some ⟨l.tokens.size, required, l.place⟩ }
  else .ok l

/-! ### Indentation -/

/-- The layout in which the block collections end that stand further in than a column. -/
def unwind (l : Layout) (stays : Nat → Bool) : Layout :=
  if l.inFlow then l
  else
    let ended := l.indents.takeWhile (!stays ·)
    { l with
      tokens := l.tokens ++ Array.replicate ended.length Token.blockEnd
      indents := l.indents.drop ended.length }

def unwindAll (l : Layout) : Layout :=
  l.unwind fun _ => false

/-- The layout in which a block collection has a column, and whether it starts with it. -/
def indent (l : Layout) (column : Nat) : Layout × Bool :=
  if l.margin ≤ column then ({ l with indents := column :: l.indents }, true) else (l, false)

/-- The layout in which a block collection starts at this column, unless one has it already. -/
def openBlock (l : Layout) (t : Token) : Layout :=
  match l.indent l.place.column with
  | (l', true) => l'.push t
  | (l', false) => l'

/-! ### Parts -/

/-- The layout behind spaces, line ends and comments. Outside brackets a key may start on a new
line. -/
def skipBlank : Nat → Layout → Layout
  | 0, l => l
  | fuel + 1, l =>
    let c := l.place.skipWhile (· == ' ')
    let c := if c.next? == some '#' then c.skipLine else c
    match c.break? with
    | none => l.moved c
    | some (_, c') => skipBlank fuel { l with place := c', keyAllowed := l.keyAllowed || !l.inFlow }

/-- The layout behind a part of one character. -/
def pushMark (l : Layout) (t : Token) : Layout :=
  (l.push t).moved l.place.advance

/-- The layout behind a part that may start a key, and that no key follows directly. -/
def pushNode (l : Layout) (read : Cursor → Scan (Token × Cursor)) : Scan Layout := do
  let l ← l.startKey
  let (t, place) ← read l.place
  return { l.push t with keyAllowed := false, place }

def pushMarker (l : Layout) (t : Token) : Scan Layout := do
  let l ← l.unwindAll.dropKey
  return { l.push t with keyAllowed := false, place := l.place.skip 3 }

def pushDirective (l : Layout) : Scan Layout := do
  let l ← l.unwindAll.dropKey
  let (t, place) ← Scan.ofOption (Token.readDirective l.place.advance)
  return { l.push t with keyAllowed := false, place }

/-- The layout behind an opening bracket. -/
def openFlow (l : Layout) (t : Token) : Scan Layout := do
  let l ← l.startKey
  return { l.pushMark t with keyAllowed := true, keyStart := none, outer := l.keyStart :: l.outer }

def closeFlow (l : Layout) (t : Token) : Scan Layout := do
  let l ← l.dropKey
  match l.outer with
  | [] => throw .malformedYaml
  | keyStart :: outer => return { l.pushMark t with keyAllowed := false, keyStart, outer }

def pushEntry (l : Layout) : Scan Layout := do
  let l ← l.dropKey
  return { l.pushMark .flowEntry with keyAllowed := true }

def pushItem (l : Layout) : Scan Layout :=
  if l.inFlow then do
    let l ← l.dropKey
    return { l.pushMark .blockEntry with keyAllowed := true }
  else if l.keyAllowed then do
    let l ← (l.openBlock .blockSequence).dropKey
    return { l.pushMark .blockEntry with keyAllowed := true }
  else .error .malformedYaml

def pushKey (l : Layout) : Scan Layout :=
  if l.inFlow then do
    let l ← l.dropKey
    return { l.pushMark .key with keyAllowed := false }
  else if l.keyAllowed then do
    let l ← (l.openBlock .blockMapping).dropKey
    return { l.pushMark .key with keyAllowed := true }
  else .error .malformedYaml

/-- The layout behind a colon. If a key may have started before it, it did, and a mapping with it
unless that goes on already. -/
def pushValue (l : Layout) : Scan Layout :=
  match l.keyStart with
  | some k =>
    let l := { l with keyStart := none, tokens := l.tokens.insertIdxIfInBounds k.position .key }
    let (l, starts) := if l.inFlow then (l, false) else l.indent k.place.column
    let tokens :=
      if starts then l.tokens.insertIdxIfInBounds k.position .blockMapping else l.tokens
    .ok { ({ l with tokens } : Layout).pushMark .value with keyAllowed := false }
  | none =>
    if l.inFlow then .ok { l.pushMark .value with keyAllowed := false }
    else if l.keyAllowed then
      .ok { (l.openBlock .blockMapping).pushMark .value with keyAllowed := true }
    else .error .malformedYaml

def pushBlock (l : Layout) (folded : Bool) : Scan Layout := do
  let l ← l.dropKey
  let (text, place) ← Scan.ofOption (Block.read folded l.margin l.place)
  return { l.push (.scalar false (text.map Char.toNat)) with keyAllowed := true, place }

def pushQuoted (l : Layout) (double : Bool) : Scan Layout :=
  l.pushNode fun c =>
    (Quoted.read double c).map fun (codes, place) => (.scalar false codes, place)

def pushPlain (l : Layout) : Scan Layout := do
  let l ← l.startKey
  let behind := Plain.read l.inFlow l.margin l.place
  return { l.push (.scalar true (behind.text.map Char.toNat)) with
    keyAllowed := behind.brokeLine, place := behind.place }

/-- The layout behind a mark and a name. -/
def pushName (l : Layout) (t : String → Token) : Scan Layout :=
  l.pushNode fun c =>
    Scan.ofOption ((Token.readAnchor c.advance).map fun (name, c') => (t name, c'))

/-- The layout behind the part that starts here with the character `x`. -/
def pushPart (l : Layout) (x : Char) : Scan Layout :=
  let c := l.place
  let separate := l.inFlow || endsWord c.second?
  if x = '%' && c.column = 0 then l.pushDirective
  else if c.column = 0 && c.atTriple '-' then l.pushMarker .documentStart
  else if c.column = 0 && c.atTriple '.' then l.pushMarker .documentEnd
  else if x = '[' then l.openFlow .flowSequence
  else if x = '\x7b' then l.openFlow .flowMapping
  else if x = ']' then l.closeFlow .flowSequenceEnd
  else if x = '\x7d' then l.closeFlow .flowMappingEnd
  else if x = ',' then l.pushEntry
  else if x = '-' && endsWord c.second? then l.pushItem
  else if x = '?' && separate then l.pushKey
  else if x = ':' && separate then l.pushValue
  else if x = '*' then l.pushName .reference
  else if x = '&' then l.pushName .anchor
  else if x = '!' then l.pushNode fun c => Scan.ofOption (Token.readTag c)
  else if (x = '|' || x = '>') && !l.inFlow then l.pushBlock (x = '>')
  else if x = '\x27' then l.pushQuoted false
  else if x = '\x22' then l.pushQuoted true
  else if Plain.starts l.inFlow c then l.pushPlain
  else .error .malformedYaml

/-- The layout behind the next part, and whether the text ends before it. -/
def step (l : Layout) : Scan (Layout × Bool) := do
  let l ← (skipBlank (l.place.rest.length + 1) l).dropExpired
  let l := l.unwind (· ≤ l.place.column)
  match l.place.next? with
  | none => return (← l.unwindAll.dropKey, true)
  | some x => return (← l.pushPart x, false)

-- The parts before a place where the text goes wrong. A part that may yet turn out to start a key
-- is not known before the next one is, and neither are those behind it.
def partsBefore (l : Layout) (e : Error) : List Token :=
  let starts := (l.keyStart :: l.outer).reduceOption.filter (·.isOpen l.place)
  let known := (starts.map (·.position)).foldl min l.tokens.size
  l.tokens.toList.take known ++ [.broken e]

/-- All parts of the text from a layout on, of which each takes at least one character. -/
def run : Nat → Layout → List Token
  | 0, l => l.partsBefore .malformedYaml
  | fuel + 1, l =>
    match l.step with
    | .error e => l.partsBefore e
    | .ok (l', true) => l'.tokens.toList
    | .ok (l', false) => run fuel l'

/-- The parts of a text; a mark of byte order at its front does not count. -/
def tokensOf (s : List Char) : List Token :=
  let start : Cursor := ⟨s, 0, 0, 0⟩
  let place := if start.next? == some '\ufeff' then start.advance else start
  run (s.length + 1) { place }

end Layout

end TableTalk.Yaml
