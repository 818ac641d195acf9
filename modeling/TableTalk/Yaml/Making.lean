import TableTalk.Yaml.Merge
import TableTalk.Yaml.Scalar
import TableTalk.Value.Arrangement

/-!
# TableTalk.Yaml.Making

The values of the nodes of a document. A scalar is made when it is come to; a collection is only
noted then, and filled in its turn, so that a fault in a scalar of an outer collection shows before
one further in. Once all are made, they are put together to the value of the whole.
-/

namespace TableTalk.Yaml

inductive Progress where
  | untouched
  | scalar (s : Scalar)
  | collection
  deriving DecidableEq, Repr

/-- How far the values of a document have been made. -/
structure Making where
  nodes : Nodes
  progress : Array Progress
  -- The collections that were come to, in order.
  noted : Array Nat := #[]

namespace Making

def progressOf (m : Making) (n : Nat) : Progress :=
  m.progress.getD n .untouched

-- The numbers of the text that a node stands for: its own, or that of the default value of a
-- mapping. A mapping that is its own default value has none; the fuel bounds the way there by the
-- number of nodes.
def textOf (nodes : Nodes) : Nat → Nat → Except Error (List Nat)
  | 0, _ => .error (.tooDeep .node)
  | fuel + 1, n =>
    match nodes.body n with
    | .text codes => .ok codes
    | .items _ => .error .malformedYaml
    | .fields fields =>
      match fields.find? fun (key, _) => nodes.kind key = .default with
      | some (_, value) => textOf nodes fuel value
      | none => .error .malformedYaml

def isCollection : Kind → Bool
  | .list | .object | .set | .pairs => true
  | _ => false

/-- The scalar that a node writes. A date is written by a text only. -/
def scalarOf (nodes : Nodes) (n : Nat) : Except Error Scalar := do
  let kind := nodes.kind n
  if kind = .unknown || kind = .merge || kind = .default then throw .malformedYaml
  let codes ← textOf nodes (nodes.size + 1) n
  match kind, nodes.body n with
  | .date, .text _ => readScalar .date codes
  | .date, _ => throw .dateTextExpected
  | kind, _ => readScalar kind codes

def touch (m : Making) (n : Nat) : Except Error Making :=
  match m.progressOf n with
  | .untouched =>
    if isCollection (m.nodes.kind n) then
      .ok { m with progress := m.progress.setIfInBounds n .collection, noted := m.noted.push n }
    else do
      let s ← scalarOf m.nodes n
      return { m with progress := m.progress.setIfInBounds n (.scalar s) }
  | _ => .ok m

/-- The key and the value of a field are come to; no collection is a key. -/
def touchField (m : Making) (field : Nat × Nat) : Except Error Making := do
  let m ← m.touch field.1
  if m.progressOf field.1 = .collection then throw .malformedYaml
  m.touch field.2

/-- The key and the value of a pair are come to, which stand in a mapping of their own. -/
def touchPair (m : Making) (n : Nat) : Except Error Making := do
  match m.nodes.body n with
  | .fields [(key, value)] => (← m.touch key).touch value
  | _ => throw .malformedYaml

def fill (m : Making) (n : Nat) : Except Error Making := do
  match m.nodes.kind n, m.nodes.body n with
  | .list, .items items => items.foldlM touch m
  | .pairs, .items items => items.foldlM touchPair m
  | .object, .fields _ | .set, .fields _ =>
    let nodes ← m.nodes.flatten n
    (nodes.fields n).foldlM touchField { m with nodes }
  | _, _ => throw .malformedYaml

-- The collections are filled from the one at a place of their order on. Each is noted once, so
-- that the number of nodes bounds the steps.
def fillFrom : Nat → Nat → Making → Except Error Making
  | 0, _, m => .ok m
  | fuel + 1, place, m =>
    match m.noted[place]? with
    | none => .ok m
    | some n => do fillFrom fuel (place + 1) (← m.fill n)

/-- The values of a document are made. -/
def ofDocument (d : Document) : Except Error Making := do
  let start : Making := { nodes := d.nodes, progress := .replicate d.nodes.size .untouched }
  fillFrom (d.nodes.size + 1) 0 (← start.touch d.root)

/-! ### Keys -/

/-- Whether two numbers are equal; what is not a number is equal to itself as a key. -/
def sameNumber : Number → Number → Bool
  | .int i, n | n, .int i => n.equalsInt i
  | .double x, .double y =>
    x = y || (Number.double x).isZero && (Number.double y).isZero

/-- Whether two keys are the same; numbers are compared by value, true and false count as one and
zero, and points in time with an offset are compared by universal time. -/
def sameKey : Scalar → Scalar → Bool
  | .bool a, .bool b => a = b
  | .bool a, .number n | .number n, .bool a => n.equalsInt a.toNat
  | .number a, .number b => sameNumber a b
  | .moment a (some i), .moment b (some j) => a.unixMicroseconds i = b.unixMicroseconds j
  | a, b => a = b

def setKey (key : Scalar) (v : Value) : List (Scalar × Value) → List (Scalar × Value)
  | [] => [(key, v)]
  | (k, old) :: rest => if sameKey k key then (k, v) :: rest else (k, old) :: setKey key v rest

/-- A mapping of fields in order, some of which may have one key. -/
def ofFields (fields : List (Scalar × Value)) : Value :=
  .object (fields.foldl (fun built (key, v) => setKey key v built) [])

/-- The set of keys, some of which may be the same. -/
def ofKeys (keys : List Scalar) : Value :=
  .set (Scalar.arranged (keys.foldl (fun built key =>
    if built.any (sameKey · key) then built else built ++ [key]) []))

/-! ### Putting together -/

/-- The values that have been put together, each under the number of its node. -/
abbrev Finished : Type := Array (Option Value)

def scalarMade (m : Making) (n : Nat) : Scalar :=
  match m.progressOf n with
  | .scalar s => s
  | _ => .null

-- How many collections around a value do not count when one is told to stand in itself: no value
-- is shown but those within two others.
def outerLevels : Nat := 2

/-- Whether a collection stands in itself, where `path` are the collections around it. -/
def recurs (path : List Nat) (n : Nat) : Bool :=
  (path.take (path.length - outerLevels)).contains n

/-- Something put together of values, and whether a collection in it is around it too. -/
abbrev Assembled (α : Type) : Type :=
  α × Bool

/-- A way to put something together, which finds some values finished and finishes others. -/
abbrev Assembly (α : Type) : Type :=
  StateM Finished (Assembled α)

/-- The values of nodes, by the way to put together the value of one. -/
def assembleAll (assemble : Nat → Assembly Value) :
    List Nat → StateM Finished (Assembled (List Value))
  | [] => return ([], false)
  | n :: rest => do
    let (v, recurs) ← assemble n
    let (vs, others) ← assembleAll assemble rest
    return (v :: vs, recurs || others)

-- The value of a node within the collections of a path. A value that does not depend on the path
-- is put together once. Along a path no collection but the outermost occurs twice, so that the
-- number of nodes bounds its length.
def assemble (m : Making) : Nat → List Nat → Nat → StateM Finished (Assembled Value)
  | 0, _, _ => return (.null, false)
  | fuel + 1, path, n => do
    match m.progressOf n with
    | .untouched => return (.null, false)
    | .scalar s => return (.scalar s, false)
    | .collection =>
      if recurs path n then return (.enclosing (m.nodes.kind n = .object), true)
      else
        match (← get).getD n none with
        | some v => return (v, false)
        | none =>
          let (v, dependent) ← build (assemble m fuel (n :: path)) n
          if !dependent then modify fun finished => finished.setIfInBounds n (some v)
          return (v, dependent)
where
  -- The value of a collection, by the way to put together the values in it.
  build (inner : Nat → Assembly Value) (n : Nat) : StateM Finished (Assembled Value) := do
    match m.nodes.kind n, m.nodes.body n with
    | .set, .fields fields => return (ofKeys (fields.map fun (key, _) => m.scalarMade key), false)
    | .object, .fields fields =>
      let (values, dependent) ← assembleAll inner (fields.map (·.2))
      return (ofFields ((fields.map fun (key, _) => m.scalarMade key).zip values), dependent)
    | .pairs, .items items =>
      let pairs := items.flatMap m.nodes.fields
      let (keys, first) ← assembleAll inner (pairs.map (·.1))
      let (values, second) ← assembleAll inner (pairs.map (·.2))
      return (.list (List.zipWith .pair keys values), first || second)
    | _, .items items =>
      let (values, dependent) ← assembleAll inner items
      return (.list values, dependent)
    | _, _ => return (.null, false)

def value (m : Making) (n : Nat) : Value :=
  ((m.assemble (m.nodes.size + outerLevels + 2) [] n).run (.replicate m.nodes.size none)).1.1

end Making

end TableTalk.Yaml
