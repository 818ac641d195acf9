import TableTalk.Yaml.Cursor

/-!
# TableTalk.Yaml.Plain

Texts without quotes. Such a text goes on over line ends as long as its lines stand further in than
the collection around it; it ends before a comment and before the colon behind a key, and inside
brackets also before a comma, a question mark or a bracket.
-/

namespace TableTalk.Yaml.Plain

def indicators : List Char :=
  ['-', '?', ':', ',', '[', ']', '\x7b', '\x7d', '#', '&', '*', '!', '|', '>', '\x27', '\x22', '%',
   '@', '\x60']

def flowIndicators : List Char :=
  [',', '?', '[', ']', '\x7b', '\x7d']

/-- Whether a plain text starts here: at no indicator, or at one that a word goes on behind. -/
def starts (inFlow : Bool) (c : Cursor) : Bool :=
  match c.next? with
  | none => false
  | some x =>
    !endsWord (some x) && !indicators.contains x ||
      !endsWord c.second? && (x = '-' || !inFlow && (x = '?' || x = ':'))

/-- Whether a colon ends a plain text, by what follows it. -/
def colonEnds (inFlow : Bool) (next : Option Char) : Bool :=
  endsWord next || inFlow && next.any fun x => x ≠ '?' && flowIndicators.contains x

def word (inFlow : Bool) : List Char → List Char
  | [] => []
  | x :: rest =>
    if endsWord (some x) || x = ':' && colonEnds inFlow rest.head? ||
        inFlow && flowIndicators.contains x then []
    else x :: word inFlow rest

/-- Line ends and the spaces among them, and the place behind; none if a mark of a document stands
there. -/
def breaks : Nat → Cursor → Option (List Char) × Cursor
  | 0, c => (some [], c)
  | fuel + 1, c =>
    match c.break? with
    | some (b, c') =>
      if c'.atMarker then (none, c')
      else
        let (bs, r) := breaks fuel c'
        (bs.map (b :: ·), r)
    | none => if c.next? == some ' ' then breaks fuel c.advance else (some [], c)

/-- What stands between two words of a plain text: what it amounts to, which is nothing if no word
can follow, whether a line ended, and the place behind it. -/
structure Gap where
  text : List Char
  brokeLine : Bool
  place : Cursor

def gap (c : Cursor) : Gap :=
  let (spaces, c') := c.takeWhile (· == ' ')
  match c'.break? with
  | none => ⟨spaces, false, c'⟩
  | some (b, c'') =>
    if c''.atMarker then ⟨[], true, c''⟩
    else
      match breaks c''.rest.length c'' with
      | (some bs, r) => ⟨fold b bs, true, r⟩
      | (none, r) => ⟨[], true, r⟩

/-- What is left of a plain text behind the gap `before`; its lines stand at the margin or further
in. -/
def readWords (inFlow : Bool) (margin : Nat) : Nat → Gap → Gap
  | 0, before => { before with text := [] }
  | fuel + 1, before =>
    let c := before.place
    let w := word inFlow c.rest
    if c.next? == some '#' || w.isEmpty then { before with text := [] }
    else
      let behind := gap (c.skip w.length)
      if behind.text.isEmpty || !inFlow && behind.place.column < margin then
        { behind with text := before.text ++ w }
      else
        let others := readWords inFlow margin fuel behind
        { others with text := before.text ++ w ++ others.text }

/-- The plain text that starts here; the place behind it and the gap that follows it, and whether
that gap holds the end of a line. -/
def read (inFlow : Bool) (margin : Nat) (c : Cursor) : Gap :=
  readWords inFlow margin (c.rest.length + 1) ⟨[], false, c⟩

end TableTalk.Yaml.Plain
