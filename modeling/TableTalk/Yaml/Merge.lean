import TableTalk.Yaml.Node

/-!
# TableTalk.Yaml.Merge

Fields that mappings take over from others. The fields of a merged mapping come before the own ones,
so that the own ones count, and of several mappings that are merged at once the first one counts
most. A mapping may be merged into itself: what is being merged is no field any more at that time.
-/

namespace TableTalk.Yaml.Nodes

/-- The first field that is the mark of a merge: what is merged by it, and the fields without it. -/
def firstMerge? (nodes : Nodes) :
    List (Nat × Nat) → Option (Nat × List (Nat × Nat))
  | [] => none
  | (key, value) :: rest =>
    if nodes.kind key = .merge then some (value, rest)
    else (firstMerge? nodes rest).map fun (merged, others) => (merged, (key, value) :: others)

/-- The fields of mappings, the last mapping first, and the nodes after `flatten` was done to each
of them. -/
def mergedFromAll (flatten : Nat → Nodes → Except Error Nodes) :
    List Nat → Nodes → Except Error (List (Nat × Nat) × Nodes)
  | [], nodes => .ok ([], nodes)
  | n :: rest, nodes =>
    match nodes.body n with
    | .fields _ => do
      let nodes ← flatten n nodes
      let first := nodes.fields n
      let (others, nodes) ← mergedFromAll flatten rest nodes
      return (others ++ first, nodes)
    | _ => .error .malformedYaml

/-- The fields that a node stands for where it is merged: a mapping, or a sequence of mappings. -/
def mergedFrom (flatten : Nat → Nodes → Except Error Nodes) (n : Nat) (nodes : Nodes) :
    Except Error (List (Nat × Nat) × Nodes) :=
  match nodes.body n with
  | .fields _ => mergedFromAll flatten [n] nodes
  | .items items => mergedFromAll flatten items nodes
  | .text _ => .error .malformedYaml

/-- The nodes in which the marks of default values among keys are texts. -/
def keepDefaults (nodes : Nodes) (fields : List (Nat × Nat)) : Nodes :=
  fields.foldl (fun nodes (key, _) =>
    if nodes.kind key = .default then nodes.setKind key .text else nodes) nodes

/-- The nodes after the merges of a mapping are done, where `merged` was merged before. Each step
takes a mark of a merge from the nodes, and none is added, so that their number bounds the steps. -/
def flattenWith : Nat → List (Nat × Nat) → Nat → Nodes → Except Error Nodes
  | 0, _, _, nodes => .ok nodes
  | fuel + 1, merged, n, nodes =>
    match nodes.firstMerge? (nodes.fields n) with
    | none =>
      let fields := merged ++ nodes.fields n
      .ok ((nodes.setBody n (.fields fields)).keepDefaults fields)
    | some (value, others) => do
      let nodes := nodes.setBody n (.fields others)
      let (added, nodes) ← mergedFrom (flattenWith fuel []) value nodes
      flattenWith fuel (merged ++ added) n nodes

def fieldCount (nodes : Nodes) : Nat :=
  nodes.foldl (fun count node =>
    match node.body with
    | .fields pairs => count + pairs.length
    | _ => count) 0

/-- The nodes after the merges of a mapping are done. -/
def flatten (nodes : Nodes) (n : Nat) : Except Error Nodes :=
  match nodes.firstMerge? (nodes.fields n) with
  | none => .ok (nodes.keepDefaults (nodes.fields n))
  | some _ => flattenWith (nodes.fieldCount + 1) [] n nodes

end TableTalk.Yaml.Nodes
