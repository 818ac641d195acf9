import TableTalk.Yaml.Cursor

/-!
# TableTalk.Yaml.Block

Texts whose lines stand indented below a header. The header says whether line ends are kept or
folded, what happens to those at the end, and, if need be, how far in the lines stand.
-/

namespace TableTalk.Yaml.Block

/-- What happens to the line ends behind the last line: one is kept, none, or all. -/
inductive Chomping where
  | clip
  | strip
  | keep
  deriving DecidableEq, Repr

structure Header where
  chomping : Chomping := .clip
  -- How much further in the lines stand than the collection around them.
  increment : Option Nat := none

def chomping? : Option Char → Option Chomping
  | some '+' => some .keep
  | some '-' => some .strip
  | _ => none

def increment? : Option Char → Option Nat
  | some c => if '0' ≤ c && c ≤ '9' then some (c.toNat - 48) else none
  | none => none

/-- The sign and the digit of a header, in either order. -/
def readSigns (c : Cursor) : Header × Cursor :=
  match chomping? c.next?, increment? c.next? with
  | some chomping, _ =>
    match increment? c.second? with
    | some n => ({ chomping, increment := some n }, c.skip 2)
    | none => ({ chomping }, c.advance)
  | none, some n =>
    match chomping? c.second? with
    | some chomping => ({ chomping, increment := some n }, c.skip 2)
    | none => ({ increment := some n }, c.advance)
  | none, none => ({}, c)

/-- The header that stands here, to the end of its line. An increment is not zero, and a space
stands before a comment. -/
def readHeader (c : Cursor) : Option (Header × Cursor) :=
  let (header, c') := readSigns c
  if header.increment == some 0 || !endsItem c'.next? then none
  else c'.skipEmptyRest?.map fun c'' => (header, c''.skipBreak)

/-- The place behind the spaces here, as far as the column `indent`. -/
def skipIndent (indent : Nat) (c : Cursor) : Cursor :=
  c.skip (min (indent - c.column) (c.rest.takeWhile (· == ' ')).length)

-- The line ends here, each behind spaces as far as the column `indent`, and the place behind them
-- and the spaces that follow.
def breaks (indent : Nat) : Nat → Cursor → List Char × Cursor
  | 0, c => ([], c)
  | fuel + 1, c =>
    let c' := skipIndent indent c
    match c'.break? with
    | none => ([], c')
    | some (b, c'') =>
      let (bs, r) := breaks indent fuel c''
      (b :: bs, r)

-- The line ends and spaces here: the line ends, the greatest column that spaces lead to, and the
-- place behind.
def measure : Nat → Nat → Cursor → List Char × Nat × Cursor
  | 0, widest, c => ([], widest, c)
  | fuel + 1, widest, c =>
    match c.break? with
    | some (b, c') =>
      let (bs, n, r) := measure fuel widest c'
      (b :: bs, n, r)
    | none =>
      if c.next? == some ' ' then measure fuel (max widest c.advance.column) c.advance
      else ([], widest, c)

/-- A block as far as it is read: its text to the end of its last line, the end of that line, the
line ends behind it, and the place behind those. -/
structure Body where
  text : List Char
  lastBreak : List Char
  trailing : List Char
  place : Cursor

/-- The lines of a block from the place `c` on, where `before` are the line ends before the first of
them. Two lines that both start with no blank are folded into one. -/
def readLines (folded : Bool) (indent : Nat) : Nat → List Char → Cursor → Body
  | 0, before, c => ⟨[], [], before, c⟩
  | fuel + 1, before, c =>
    if c.column = indent && c.next?.isSome then
      let (line, c') := c.takeWhile (!isBreak ·)
      let lineBreak := (c'.break?.map (·.1)).toList
      let (empty, c'') := breaks indent (c'.rest.length + 1) c'.skipBreak
      if c''.column = indent && c''.next?.isSome then
        let joint :=
          if folded && lineBreak == ['\n'] && !c.next?.any isSpace && !c''.next?.any isSpace then
            if empty.isEmpty then [' '] else []
          else lineBreak
        let others := readLines folded indent fuel empty c''
        { others with text := before ++ line ++ joint ++ others.text }
      else ⟨before ++ line, lineBreak, empty, c''⟩
    else ⟨[], [], before, c⟩

/-- The text of a block after its end is chomped. -/
def Body.chomp (b : Body) : Chomping → List Char
  | .strip => b.text
  | .clip => b.text ++ b.lastBreak
  | .keep => b.text ++ b.lastBreak ++ b.trailing

/-- The block whose header stands behind the character here. Its lines stand at least as far in as
the margin, and further in than the start of a line. -/
def read (folded : Bool) (margin : Nat) (c : Cursor) : Option (List Char × Cursor) := do
  let (header, c') ← readHeader c.advance
  let least := max margin 1
  let fuel := c'.rest.length + 1
  let body :=
    match header.increment with
    | some n =>
      let indent := least + n - 1
      let (before, c'') := breaks indent fuel c'
      readLines folded indent fuel before c''
    | none =>
      let (before, widest, c'') := measure fuel 0 c'
      readLines folded (max least widest) fuel before c''
  return (body.chomp header.chomping, body.place)

end TableTalk.Yaml.Block
