import TableTalk.Yaml.Token

/-!
# TableTalk.Yaml.Quoted

Texts between quotes. Between single quotes a single quote is written twice; between double quotes a
backslash starts an escape, by number also of half of a pair, which is kept as it is. Ends of line
inside a text are folded, together with the blanks around them.
-/

namespace TableTalk.Yaml.Quoted

/-- Line ends and the blanks before each of them, and the place behind them and the blanks that
follow. A mark of a document must not stand among them. -/
def breaks : Nat → Cursor → Option (List Char × Cursor)
  | 0, _ => none
  | fuel + 1, c =>
    if c.atMarker then none
    else
      let c' := c.skipWhile isSpace
      match c'.break? with
      | none => some ([], c')
      | some (b, c'') => (breaks fuel c'').map fun (bs, r) => (b :: bs, r)

/-- What the blanks and line ends here amount to, and the place behind them; something must follow
them. -/
def gap (c : Cursor) : Option (List Char × Cursor) :=
  let (blanks, c') := c.takeWhile isSpace
  match c'.break?, c'.next? with
  | some (b, c''), _ => (breaks (c''.rest.length + 1) c'').map fun (bs, r) => (fold b bs, r)
  | none, some _ => some (blanks, c')
  | none, none => none

/-- The characters that stand for themselves behind a backslash, or for others. -/
def escapes : List (Char × Char) :=
  [('0', '\x00'), ('a', '\x07'), ('b', '\x08'), ('t', '\t'), ('\t', '\t'), ('n', '\n'),
   ('v', '\x0b'), ('f', '\x0c'), ('r', '\r'), ('e', '\x1b'), (' ', ' '), ('\x22', '\x22'),
   ('\\', '\\'), ('/', '/'), ('N', '\u0085'), ('_', '\u00a0'), ('L', '\u2028'), ('P', '\u2029')]

/-- How many hexadecimal digits of a number follow a letter behind a backslash. -/
def codeLength? : Char → Option Nat
  | 'x' => some 2
  | 'u' => some 4
  | 'U' => some 8
  | _ => none

def code? (n : Nat) (s : List Char) : Option Nat :=
  if s.length < n then none
  else (s.take n).foldlM (fun sum c => (Json.hexValue? c).map (16 * sum + ·)) 0

/-- An escape by number: the number, and the place behind it; `c` is the place behind the
backslash. -/
def readCode? (c : Cursor) : Option (Nat × Cursor) := do
  let n ← codeLength? (← c.next?)
  let code ← code? n (c.rest.drop 1)
  return (code, c.skip (n + 1))

/-- The numbers that an escape stands for; `c` is the place behind its backslash. -/
def readEscape (c : Cursor) : Scan (List Nat × Cursor) := do
  let e ← Scan.ofOption c.next?
  match escapes.lookup e, codeLength? e, c.break? with
  | some x, _, _ => return ([x.toNat], c.advance)
  | none, some _, _ =>
    let (code, c') ← Scan.ofOption (readCode? c)
    if code < 0x110000 then return ([code], c') else throw (.noSuchCharacter code)
  | none, none, some (_, c') =>
    let (bs, r) ← Scan.ofOption (breaks (c'.rest.length + 1) c')
    return (bs.map Char.toNat, r)
  | none, none, none => throw .malformedYaml

/-- The numbers of a text up to its closing quote, and the place behind that. -/
def readChars (double : Bool) : Nat → Cursor → Scan (List Nat × Cursor)
  | 0, _ => throw .malformedYaml
  | fuel + 1, c => do
    let quote := if double then '\x22' else '\x27'
    let x ← Scan.ofOption c.next?
    if !double && x = quote && c.second? == some quote then
      let (s, r) ← readChars double fuel (c.skip 2)
      return (quote.toNat :: s, r)
    else if x = quote then return ([], c.advance)
    else if double && x = '\\' then
      let (s, c') ← readEscape c.advance
      let (t, r) ← readChars double fuel c'
      return (s ++ t, r)
    else if isSpace x || isBreak x then
      let (s, c') ← Scan.ofOption (gap c)
      let (t, r) ← readChars double fuel c'
      return (s.map Char.toNat ++ t, r)
    else
      let (s, r) ← readChars double fuel c.advance
      return (x.toNat :: s, r)

/-- The numbers of a text between quotes; `c` is the place before the opening one. -/
def read (double : Bool) (c : Cursor) : Scan (List Nat × Cursor) :=
  readChars double c.rest.length c.advance

end TableTalk.Yaml.Quoted
