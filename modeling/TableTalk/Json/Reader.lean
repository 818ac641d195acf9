import TableTalk.Value

/-!
# TableTalk.Json.Reader

JSON text to values. A string may hold no bare control character, a number is an integer unless it
has a fraction or an exponent, the names of the three numbers that are not finite are admitted, and
of two fields with one key the later value counts. Two escaped halves of a pair write one character,
and a text in which a half stands alone is one of its own kind.

A step of the reader consumes the front of a text and returns the rest. Where the text goes wrong it
fails with the rest, so that the place of the failure is what was consumed before it. Integers of
too many digits and values that stand too deep within each other are failures of their own; how deep
that is, the reader is told. It reads characters, and numbers of characters as well.
-/

namespace TableTalk.Json

open Text.Sign (shown code)

inductive Flaw (α : Type) where
  -- The text goes wrong where this rest begins.
  | wrong (rest : List α)
  -- The text is not wrong, but its value cannot be made.
  | beyond (e : Error)

/-- The result of reading the front of a text: a value and the rest, or a flaw. -/
abbrev Reading (α β : Type) : Type :=
  Except (Flaw α) (β × List α)

def isSpace (c : Char) : Bool :=
  c = ' ' || c = '\t' || c = '\n' || c = '\r'

section

variable {α : Type} [Text.Sign α]

def skipSpace (s : List α) : List α :=
  s.dropWhile fun a => isSpace (shown a)

theorem skipSpace_cons {a : α} (solid : isSpace (shown a) = false) (r : List α) :
    skipSpace (a :: r) = a :: r := by
  simp [skipSpace, solid]

/-- What stands behind a character, if a text begins with it. -/
def behind? (c : Char) : List α → Option (List α)
  | [] => none
  | a :: r => if shown a = c then some r else none

@[simp] theorem behind?_nil (c : Char) : behind? c ([] : List α) = none := rfl

@[simp] theorem behind?_cons (c : Char) (a : α) (r : List α) :
    behind? c (a :: r) = if shown a = c then some r else none := rfl

end

/-! ### Strings -/

def hexValue? (c : Char) : Option Nat :=
  if '0' ≤ c && c ≤ '9' then some (c.toNat - 48)
  else if 'a' ≤ c && c ≤ 'f' then some (c.toNat - 87)
  else if 'A' ≤ c && c ≤ 'F' then some (c.toNat - 55)
  else none

def simpleEscape? : Char → Option Char
  | '\x22' => some '\x22'
  | '\\' => some '\\'
  | '/' => some '/'
  | 'b' => some '\x08'
  | 'f' => some '\x0c'
  | 'n' => some '\n'
  | 'r' => some '\r'
  | 't' => some '\t'
  | _ => none

def isDigit (c : Char) : Bool :=
  '0' ≤ c && c ≤ '9'

def ofDigits (ds : List Char) : Nat :=
  ds.foldl (fun n d => 10 * n + (d.toNat - 48)) 0

def namedScalars : List (List Char × Scalar) :=
  [(['n', 'u', 'l', 'l'], .null), (['t', 'r', 'u', 'e'], .bool true),
   (['f', 'a', 'l', 's', 'e'], .bool false),
   (['N', 'a', 'N'], .number (.double .nan)),
   (['I', 'n', 'f', 'i', 'n', 'i', 't', 'y'], .number (.double (.infinite false))),
   (['-', 'I', 'n', 'f', 'i', 'n', 'i', 't', 'y'], .number (.double (.infinite true)))]

section

variable {α : Type} [Text.Sign α]

-- The number of four hexadecimal digits at the front. A string goes on behind them, so at least
-- one character follows.
def hex4? : List α → Option (Nat × List α)
  | a :: b :: c :: d :: e :: r => do
    let w ← hexValue? (shown a)
    let x ← hexValue? (shown b)
    let y ← hexValue? (shown c)
    let z ← hexValue? (shown d)
    return (4096 * w + 256 * x + 16 * y + z, e :: r)
  | _ => none

-- The number of the character that is written as an escape by number, or of a half of a pair whose
-- other half does not follow; `s` is the text from the `u` on.
def readCode (s : List α) : Reading α Nat :=
  match hex4? (s.drop 1) with
  | none => .error (.wrong s)
  | some (n, r) =>
    if Text.isHighHalf n then
      match (behind? '\\' r).bind (behind? 'u') with
      | some t =>
        match hex4? t with
        | some (m, r') =>
          if Text.isLowHalf m then .ok (Text.joined n m, r') else .ok (n, r)
        | none => if t.length < 5 then .ok (n, r) else .error (.wrong (r.drop 1))
      | none => .ok (n, r)
    else .ok (n, r)

/-- The number of the character written at the front of `s`, which is no quote and no control
character. -/
def readChar : List α → Reading α Nat
  | [] => .error (.wrong [])
  | a :: r =>
    if shown a = '\\' then
      match r with
      | [] => .error (.wrong [])
      | e :: r' =>
        if shown e = 'u' then readCode (e :: r')
        else
          match simpleEscape? (shown e) with
          | some c => .ok (c.toNat, r')
          | none => .error (.wrong (a :: e :: r'))
    else .ok (code a, r)

-- The numbers of the characters of a string up to its closing quote; `opening` is the text from
-- the opening quote on, and `fuel` bounds the number of characters.
def readChars (opening : List α) :
    Nat → List α → Except (Flaw α) (List Nat × List α)
  | _, [] => .error (.wrong opening)
  | 0, _ => .error (.wrong opening)
  | fuel + 1, a :: r =>
    if shown a = '\x22' then .ok ([], r)
    else if shown a < ' ' then .error (.wrong (a :: r))
    else if r.isEmpty then .error (.wrong opening)
    else do
      let (d, r') ← readChar (a :: r)
      let (ds, r'') ← readChars opening fuel r'
      return (d :: ds, r'')

def readString (s : List α) : Reading α Scalar :=
  (readChars s s.length (s.drop 1)).map fun (codes, r) => (.ofCodes codes, r)

/-! ### Numbers -/

def readDigits (s : List α) : List Char × List α :=
  ((s.takeWhile fun a => isDigit (shown a)).map shown, s.dropWhile fun a => isDigit (shown a))

/-- The fraction at the front: a point and at least one digit. -/
def readFraction (s : List α) : List Char × List α :=
  match (behind? '.' s).map readDigits with
  | some (d :: ds, r) => (d :: ds, r)
  | _ => ([], s)

/-- The sign at the front, and what stands behind it. -/
def readSign (s : List α) : Bool × List α :=
  match behind? '-' s with
  | some r => (true, r)
  | none => (false, (behind? '+' s).getD s)

/-- The exponent at the front: a letter, an optional sign, and at least one digit. -/
def readExponent (s : List α) : Option Int × List α :=
  match (behind? 'e' s).or (behind? 'E' s) with
  | none => (none, s)
  | some r =>
    let (negative, t) := readSign r
    match readDigits t with
    | ([], _) => (none, s)
    | (ds, t') => (some (if negative then -(ofDigits ds : Int) else ofDigits ds), t')

/-- The integer part at the front: a zero alone, or digits without a leading zero. -/
def readWhole? (s : List α) : Option (List Char × List α) :=
  match behind? '0' s with
  | some r => some (['0'], r)
  | none =>
    match readDigits s with
    | ([], _) => none
    | (ds, r) => some (ds, r)

/-- A number without its sign. An integer may have only so many digits. -/
def readUnsigned? (negative : Bool) (s : List α) : Option (Except Error Number × List α) :=
  (readWhole? s).map fun (whole, r) =>
    let (fraction, r') := readFraction r
    let (exponent, r'') := readExponent r'
    if fraction.isEmpty && exponent.isNone then
      if mostDigits < whole.length then (.error (.integerTooLong whole.length), r'')
      else
        (.ok (.int (if negative then -(ofDigits whole : Int) else ofDigits whole)), r'')
    else
      (.ok (.double (.ofDecimal negative (ofDigits (whole ++ fraction))
        (exponent.getD 0 - fraction.length))), r'')

def readNumber? (s : List α) : Option (Except Error Number × List α) :=
  match behind? '-' s with
  | some r => readUnsigned? true r
  | none => readUnsigned? false s

/-! ### Values -/

def readNamed? (s : List α) : Option (Scalar × List α) :=
  namedScalars.findSome? fun (word, value) =>
    (Text.afterKeyword? (fun c a => c == shown a) word s).map fun r => (value, r)

def readScalar (s : List α) : Reading α Value :=
  match readNamed? s with
  | some (value, r) => .ok (.scalar value, r)
  | none =>
    match readNumber? s with
    | some (.ok n, r) => .ok (.number n, r)
    | some (.error e, _) => .error (.beyond e)
    | none => .error (.wrong s)

mutual

-- The value at the front, with room for so many lists and objects within each other. Each character
-- is the first of at most two steps, so that fuel twice the length of the text suffices.
def readValue : Nat → Nat → List α → Reading α Value
  | 0, _, s => .error (.wrong s)
  | _, _, [] => .error (.wrong [])
  | fuel + 1, room, a :: r =>
    if shown a = '\x22' then (readString (a :: r)).map fun (s, r') => (.scalar s, r')
    else if shown a = '\x7b' then
      if room = 0 then .error (.beyond (.tooDeep .object))
      else
        match behind? '\x7d' (skipSpace r) with
        | some r' => .ok (.object [], r')
        | none =>
          (readFields fuel (room - 1) [] (skipSpace r)).map fun (fields, r') =>
            (.object fields, r')
    else if shown a = '[' then
      if room = 0 then .error (.beyond (.tooDeep .list))
      else
        match behind? ']' (skipSpace r) with
        | some r' => .ok (.list [], r')
        | none =>
          (readItems fuel (room - 1) (skipSpace r)).map fun (items, r') => (.list items, r')
    else readScalar (a :: r)

def readItems : Nat → Nat → List α → Except (Flaw α) (List Value × List α)
  | 0, _, s => .error (.wrong s)
  | fuel + 1, room, s => do
    let (item, r) ← readValue fuel room s
    match behind? ']' (skipSpace r), behind? ',' (skipSpace r) with
    | some r', _ => return ([item], r')
    | none, some r' =>
      let (items, r'') ← readItems fuel room (skipSpace r')
      return (item :: items, r'')
    | none, none => .error (.wrong (skipSpace r))

def readFields : Nat → Nat → List (Scalar × Value) → List α →
    Except (Flaw α) (List (Scalar × Value) × List α)
  | 0, _, _, s => .error (.wrong s)
  | _, _, _, [] => .error (.wrong [])
  | fuel + 1, room, before, a :: r =>
    if shown a = '\x22' then do
      let (key, s) ← readString (a :: r)
      match behind? ':' (skipSpace s) with
      | some s' =>
        let (value, t) ← readValue fuel room (skipSpace s')
        let fields := Value.setField key value before
        match behind? '\x7d' (skipSpace t), behind? ',' (skipSpace t) with
        | some t', _ => return (fields, t')
        | none, some t' => readFields fuel room fields (skipSpace t')
        | none, none => .error (.wrong (skipSpace t))
      | none => .error (.wrong (skipSpace s))
    else .error (.wrong (a :: r))

end

end

inductive Failure where
  -- It goes wrong behind so many characters.
  | malformed (place : Nat)
  -- It is not wrong, but its value cannot be made.
  | beyond (e : Error)

section

variable {α : Type} [Text.Sign α]

def Failure.ofFlaw (s : List α) : Flaw α → Failure
  | .wrong rest => malformed (s.length - rest.length)
  | .beyond e => beyond e

/-- The value of a whole text, with room for so many lists and objects within each other. -/
def read (room : Nat) (s : List α) : Except Failure Value :=
  match readValue (2 * s.length + 2) room (skipSpace s) with
  | .error flaw => .error (.ofFlaw s flaw)
  | .ok (value, r) =>
    match skipSpace r with
    | [] => .ok value
    | rest => .error (.ofFlaw s (.wrong rest))

end

end TableTalk.Json
