import TableTalk.Yaml.Kind
import TableTalk.Text.Base64

/-!
# TableTalk.Yaml.Scalar

Scalars from texts of a kind. A tag can give any text any kind, so that the forms of plain texts do
not bound what has to be read here: a number is read by the marks at its front, and fails where the
rest is no number. Halves of pairs that stand alone are kept in texts only.
-/

namespace TableTalk.Yaml

def dropLines (s : List Char) : List Char :=
  s.filter (· != '_')

def signed (negative : Bool) (i : Int) : Int :=
  if negative then -i else i

def readSixties (pieces : List (List Char)) : Except Error Int :=
  pieces.foldlM (fun sum piece => do return 60 * sum + (← Number.readInteger 10 piece)) 0

/-- The integer of a text. A sign counts once, before the mark of a base; what follows may have a
sign of its own. -/
def readInteger (s : List Char) : Except Error Int := do
  let digits := dropLines s
  let (negative, r) := Text.splitSign digits
  match r with
  | [] => throw .emptyNumber
  | ['0'] => return 0
  | '0' :: 'b' :: r => return signed negative (← Number.readInteger 2 r)
  | '0' :: 'x' :: r => return signed negative (← Number.readInteger 16 r)
  | '0' :: _ => return signed negative (← Number.readInteger 8 r)
  | r =>
    if r.contains ':' then return signed negative (← readSixties (splitColons r))
    else return signed negative (← Number.readInteger 10 r)

/-- A sum of pieces to the base sixty in double precision, of which the last one comes first, each
worth `base` times as much as it says. -/
def sumSixties (sum : Double) (base : Int) : List Double → Except Error Double
  | [] => .ok sum
  | x :: rest => do
    let part ← (Number.int base).toDouble
    sumSixties (sum.add (x.mul part)) (base * 60) rest

/-- The number of double precision of a text. -/
def readDouble (s : List Char) : Except Error Double := do
  let digits := Text.lower (dropLines s)
  let (negative, r) := Text.splitSign digits
  let x ←
    if digits.isEmpty then throw .emptyNumber
    else if r = ".inf".toList then pure (.infinite false)
    else if r = ".nan".toList then pure .nan
    else if r.contains ':' then do
      let parts ← (splitColons r).mapM Number.readDouble
      sumSixties (.finite false 0) 1 parts.reverse
    else Number.readDouble r
  return if negative then x.neg else x

def refuse (faults : List (Option Timestamp.Fault)) : Except Error Unit :=
  match faults.reduceOption with
  | [] => .ok ()
  | fault :: _ => .error (.noSuchDate fault)

def readDate (s : List Char) : Except Error Scalar := do
  match DateText.read? (dropFinalBreak s) with
  | none => throw .notADate
  | some d =>
    if d.hasTime then
      refuse [d.offset.bind Timestamp.offsetFault?, d.time.dateFault?, d.time.timeFault?]
      return .moment d.time d.offset
    else
      refuse [d.time.dateFault?]
      return .date d.time

def readBytes (s : List Char) : Except Error (List UInt8) :=
  if s.all (·.toNat < 0x80) then
    match Text.Base64.decode s with
    | some content => .ok content
    | none => .error .malformedYaml
  else .error .malformedYaml

/-- The scalar of a kind that the text of these numbers writes. -/
def readScalar (kind : Kind) (codes : List Nat) : Except Error Scalar :=
  let s := String.ofList (codes.map Text.charOf)
  match kind with
  | .null => .ok .null
  | .bool =>
    match truthWords.lookup s.lowered with
    | some b => .ok (.bool b)
    | none => .error (.missingKey s.lowered)
  | .integer => (readInteger s.toList).map fun i => .number (.int i)
  | .double => (readDouble s.toList).map fun x => .number (.double x)
  | .text => .ok (.ofCodes codes)
  | .bytes => (readBytes s.toList).map .bytes
  | .date => readDate s.toList
  | .list | .object | .set | .pairs | .merge | .default | .unknown => .error .malformedYaml

end TableTalk.Yaml
