import TableTalk.Yaml.Kind

/-!
# TableTalk.Yaml.Node

The nodes of a document: scalars, sequences and mappings. Nodes are known by number, so that a node
can stand in several places, and even within itself.
-/

namespace TableTalk.Yaml

/-- What a node is made of; the nodes within it are given by number. -/
inductive Body where
  -- The numbers of the characters of a text, among which halves of pairs may stand alone.
  | text (codes : List Nat)
  | items (nodes : List Nat)
  | fields (nodes : List (Nat × Nat))

structure Node where
  kind : Kind
  body : Body

instance : Inhabited Node := ⟨⟨.null, .text []⟩⟩

abbrev Nodes : Type := Array Node

namespace Nodes

def kind (nodes : Nodes) (n : Nat) : Kind :=
  (nodes.getD n default).kind

def body (nodes : Nodes) (n : Nat) : Body :=
  (nodes.getD n default).body

-- The fields of a mapping; any other node has none.
def fields (nodes : Nodes) (n : Nat) : List (Nat × Nat) :=
  match nodes.body n with
  | .fields pairs => pairs
  | _ => []

def setBody (nodes : Nodes) (n : Nat) (body : Body) : Nodes :=
  nodes.modify n fun node => { node with body }

def setKind (nodes : Nodes) (n : Nat) (kind : Kind) : Nodes :=
  nodes.modify n fun node => { node with kind }

end Nodes

/-- The nodes of a text, and the number of the one that stands for the whole. -/
structure Document where
  nodes : Nodes
  root : Nat

end TableTalk.Yaml
