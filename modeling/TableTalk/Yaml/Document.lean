import TableTalk.Yaml.Layout
import TableTalk.Yaml.Node

/-!
# TableTalk.Yaml.Document

The nodes that a text writes, from its parts. A reference stands for the node of its anchor, which
may be one that is still being read. A text holds at most one document.
-/

namespace TableTalk.Yaml.Document

/-- What is left of the parts of a text, and what was said so far. -/
structure State where
  tokens : List Token
  -- What the handles of tags stand for.
  handles : List (String × String) := []
  -- The anchors that have occurred, and their nodes.
  anchors : List (String × Nat) := []
  nodes : Nodes := #[]

/-- A reading of parts, which fails if they are not as they should be. -/
abbrev Reading (α : Type) : Type :=
  StateT State (Except Error) α

def wrong {α : Type} : Reading α :=
  throw .malformedYaml

/-- The next part. A part that goes wrong shows as soon as it is next. -/
def next? : Reading (Option Token) := do
  match (← get).tokens.head? with
  | some (.broken e) => throw e
  | t => return t

def drop : Reading Unit :=
  modify fun s => { s with tokens := s.tokens.drop 1 }

def skipIf (t : Token) : Reading Bool := do
  if (← next?) == some t then
    drop
    return true
  else return false

def expect (t : Token) : Reading Unit := do
  if !(← skipIf t) then wrong

/-! ### Properties -/

/-- The anchor and the kind of a node, as far as they are written. A mere exclamation mark is no
kind, but makes the text behind it plain. -/
structure Properties where
  anchor : Option String := none
  kind : Option Kind := none
  -- Whether a tag is written.
  isTagged : Bool := false

/-- The full text of a tag. -/
def fullTag (handle : Option String) (suffix : String) : Reading String := do
  match handle with
  | none => return suffix
  | some h =>
    match (← get).handles.lookup h with
    | some target => return target ++ suffix
    | none => wrong

def anchor? : Reading (Option String) := do
  match ← next? with
  | some (.anchor name) =>
    drop
    return some name
  | _ => return none

def tag? : Reading (Option (Option String × String)) := do
  match ← next? with
  | some (.tag handle suffix) =>
    drop
    return some (handle, suffix)
  | _ => return none

/-- The properties that are next, the anchor and the tag in whichever order. -/
def properties : Reading Properties := do
  let first ← anchor?
  let tag ← tag?
  let anchor ← if first.isNone && tag.isSome then anchor? else pure first
  match tag with
  | none => return { anchor }
  | some (handle, suffix) =>
    let full ← fullTag handle suffix
    return { anchor, kind := if full = "!" then none else some (.ofTag full), isTagged := true }

/-- Takes note of a node, under its anchor if it has one, and says its number. -/
def note (p : Properties) (kind : Kind) (body : Body) : Reading Nat := do
  let s ← get
  let n := s.nodes.size
  let anchors :=
    match p.anchor with
    | some name => (name, n) :: s.anchors
    | none => s.anchors
  set { s with nodes := s.nodes.push ⟨p.kind.getD kind, body⟩, anchors }
  return n

/-- Takes note of a collection, which can be referred to within itself, with the body that is read.
-/
def noteCollection (p : Properties) (kind : Kind) (read : Reading Body) : Reading Nat := do
  let n ← note p kind (.items [])
  let body ← read
  modify fun s => { s with nodes := s.nodes.setBody n body }
  return n

-- Takes note of a text. One that is plain, or behind a mere exclamation mark, shows its kind.
def noteText (p : Properties) (plain : Bool) (codes : List Nat) : Reading Nat :=
  note p (if plain || p.isTagged then .ofPlain (.ofList (codes.map Text.charOf)) else .text)
    (.text codes)

def noteEmpty : Reading Nat :=
  noteText {} true []

def noteBare (p : Properties) : Reading Nat :=
  if p.anchor.isNone && !p.isTagged then wrong else noteText p true []

def referent (name : String) : Reading Nat := do
  match (← get).anchors.lookup name with
  | some n => return n
  | none => wrong

/-! ### Nodes -/

/-- What a node stands among; only there it may be a block, or a sequence without indentation. -/
inductive Place where
  | inBrackets
  | inBlock
  | inMapping
  deriving DecidableEq, Repr

mutual

-- The node that is next, with room for so many nodes within each other. Fuel bounds the
-- depth of the recursion: a bracket takes three steps and is closed by another part, and any other
-- part takes at most two, so that fuel twice the number of parts suffices.
def read : Nat → Nat → Place → Reading Nat
  | 0, _, _ => wrong
  | fuel + 1, room, place => do
    match ← next? with
    | some (.reference name) =>
      drop
      referent name
    | _ =>
      let p ← properties
      let _ ← next?
      let s ← get
      if p.anchor.any fun name => (s.anchors.lookup name).isSome then wrong
      if room = 0 then throw (.tooDeep .node)
      readContent fuel (room - 1) place p

/-- The content of a node with properties. -/
def readContent : Nat → Nat → Place → Properties → Reading Nat
  | 0, _, _, _ => wrong
  | fuel + 1, room, place, p => do
    match ← next? with
    | some (.scalar plain codes) =>
      drop
      noteText p (plain && !p.isTagged) codes
    | some .flowSequence =>
      drop
      noteCollection p .list (.items <$> readFlowItems fuel room true)
    | some .flowMapping =>
      drop
      noteCollection p .object (.fields <$> readFlowPairs fuel room true)
    | some .blockEntry =>
      if place = .inMapping then
        noteCollection p .list (.items <$> readOpenItems fuel room)
      else noteBare p
    | some .blockSequence =>
      if place = .inBrackets then noteBare p
      else
        drop
        noteCollection p .list (.items <$> readItems fuel room)
    | some .blockMapping =>
      if place = .inBrackets then noteBare p
      else
        drop
        noteCollection p .object (.fields <$> readPairs fuel room)
    | _ => noteBare p

/-- The node that is next, unless one of these parts is. -/
def readUnless : Nat → Nat → Place → List Token → Reading Nat
  | 0, _, _, _ => wrong
  | fuel + 1, room, place, ends => do
    let next ← next?
    if next.all ends.contains then noteEmpty else read fuel room place

def readItems : Nat → Nat → Reading (List Nat)
  | 0, _ => wrong
  | fuel + 1, room => do
    if ← skipIf .blockEntry then
      let item ← readUnless fuel room .inBlock [.blockEntry, .blockEnd]
      return item :: (← readItems fuel room)
    else
      expect .blockEnd
      return []

/-- The items of a sequence that stands no further in than the mapping around it. -/
def readOpenItems : Nat → Nat → Reading (List Nat)
  | 0, _ => wrong
  | fuel + 1, room => do
    if ← skipIf .blockEntry then
      let item ← readUnless fuel room .inBlock [.blockEntry, .key, .value, .blockEnd]
      return item :: (← readOpenItems fuel room)
    else return []

def readPairs : Nat → Nat → Reading (List (Nat × Nat))
  | 0, _ => wrong
  | fuel + 1, room => do
    let ends := [Token.key, .value, .blockEnd]
    if ← skipIf .key then
      let key ← readUnless fuel room .inMapping ends
      let value ←
        if ← skipIf .value then readUnless fuel room .inMapping ends else noteEmpty
      return (key, value) :: (← readPairs fuel room)
    else
      expect .blockEnd
      return []

-- The items of a sequence between brackets, to its end; an item may be a mapping of one pair.
def readFlowItems : Nat → Nat → Bool → Reading (List Nat)
  | 0, _, _ => wrong
  | fuel + 1, room, first => do
    if ← skipIf .flowSequenceEnd then return []
    if !first then expect .flowEntry
    if ← skipIf .flowSequenceEnd then return []
    if ← skipIf .key then
      let item ← noteCollection {} .object
        ((.fields [·]) <$> readFlowPair fuel room .flowSequenceEnd)
      return item :: (← readFlowItems fuel room false)
    else
      let item ← read fuel room .inBrackets
      return item :: (← readFlowItems fuel room false)

-- The pairs of a mapping between brackets, to its end; a pair may be a key alone.
def readFlowPairs : Nat → Nat → Bool → Reading (List (Nat × Nat))
  | 0, _, _ => wrong
  | fuel + 1, room, first => do
    if ← skipIf .flowMappingEnd then return []
    if !first then expect .flowEntry
    if ← skipIf .flowMappingEnd then return []
    if ← skipIf .key then
      let pair ← readFlowPair fuel room .flowMappingEnd
      return pair :: (← readFlowPairs fuel room false)
    else
      let key ← read fuel room .inBrackets
      let value ← noteEmpty
      return (key, value) :: (← readFlowPairs fuel room false)

-- The pair between brackets behind the mark of its key, where `closing` would close the
-- bracket.
def readFlowPair : Nat → Nat → Token → Reading (Nat × Nat)
  | 0, _, _ => wrong
  | fuel + 1, room, closing => do
    let key ← readUnless fuel room .inBrackets [.value, .flowEntry, closing]
    let value ←
      if ← skipIf .value then readUnless fuel room .inBrackets [.flowEntry, closing]
      else noteEmpty
    return (key, value)

end

/-! ### Documents -/

/-- The handles that stand for something without a directive. -/
def standardHandles : List (String × String) :=
  [("!", "!"), ("!!", tagFamily)]

/-- What handles stand for after directives; a version may be given once, a handle may be explained
once. -/
def explain : List Directive → Bool → List (String × String) → Reading (List (String × String))
  | [], _, handles => return handles
  | .version major :: ds, versioned, handles =>
    if versioned || major ≠ 1 then wrong else explain ds true handles
  | .handle name target :: ds, versioned, handles =>
    if (handles.lookup name).isSome then wrong else explain ds versioned ((name, target) :: handles)
  | .other :: ds, versioned, handles => explain ds versioned handles

def directive? : Token → Option Directive
  | .directive d => some d
  | _ => none

/-- Leaves out the directives that are next, and says whether there are any, and what handles stand
for after them. -/
def readDirectives : Reading (Bool × List (String × String)) := do
  let s ← get
  let directives := s.tokens.map directive? |>.takeWhile (·.isSome) |>.reduceOption
  let handles ← explain directives false []
  set { s with tokens := s.tokens.drop directives.length }
  return (!directives.isEmpty, handles)

/-- The root of the document that is next, behind a mark of its start and its directives if there
are any. -/
def readRoot (fuel room : Nat) : Reading Nat := do
  let (directed, handles) ← readDirectives
  modify fun s => { s with handles := handles ++ standardHandles }
  if directed || (← next?) == some .documentStart then
    expect .documentStart
    match ← next? with
    | none | some .documentStart | some .documentEnd | some (.directive _) => noteEmpty
    | some _ => read fuel room .inBlock
  else read fuel room .inBlock

/-- Nothing but marks of the end of a document may be left. -/
def expectEnd : Reading Unit := do
  modify fun s => { s with tokens := s.tokens.dropWhile (· == .documentEnd) }
  let (directed, _) ← readDirectives
  if directed || (← next?).isSome then wrong

/-- The document of a text with these parts, if it holds one, with room for so many nodes within
each other. -/
def ofTokens (room : Nat) (tokens : List Token) : Except Error (Option Document) :=
  if tokens.isEmpty then .ok none
  else do
    let readAll : Reading Nat := do
      let n ← readRoot (2 * tokens.length + 2) room
      expectEnd
      return n
    let (root, s) ← readAll.run { tokens }
    return some { nodes := s.nodes, root }

end TableTalk.Yaml.Document
