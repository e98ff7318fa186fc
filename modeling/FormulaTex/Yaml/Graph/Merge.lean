import FormulaTex.Yaml.Graph

/-!
# Merges

A key with the merge tag has a mapping, or a sequence of mappings, as its value. The entries of
these mappings go in front of the other entries of the mapping that merges them, so that its own
entries replace them. Of several mappings in a sequence the first goes over the later ones.

The mappings that are merged carry out their own merges first. A merge is taken out of the graph
before its value is looked at, and therefore merges that go in a circle come to an end.
-/

namespace FormulaTex
namespace Yaml
namespace Graph

def isMerge (graph : Graph) (entry : Nat × Nat) : Bool :=
  graph.tag? entry.1 = some Tag.merge

def mergeCount (graph : Graph) : Nat :=
  graph.foldl (fun count cell =>
    match cell.content with
    | .mapping entries => count + entries.countP graph.isMerge
    | _ => count) 0

/-- A key that marks a value is a text as a key. -/
def withTextKeys (graph : Graph) (entries : List (Nat × Nat)) : Graph :=
  entries.foldl (fun graph (key, _) =>
    if graph.tag? key = some Tag.value then graph.withTag key Tag.str else graph) graph

/-- Puts merged entries in front of those of a mapping. -/
def withMerged (graph : Graph) (n : Nat) (merged : List (Nat × Nat)) : Graph :=
  let entries := graph.entries n
  (graph.withTextKeys entries).withContent n (.mapping (merged ++ entries))

/-- The nodes to merge, given the value of a merge. -/
def mappings (graph : Graph) (value : Nat) : Except Fault (List Nat) :=
  match graph.content? value with
  | some (.mapping _) => .ok [value]
  | some (.sequence items) => .ok items
  | _ => .error .malformed

def isMapping (graph : Graph) (n : Nat) : Bool :=
  match graph.content? n with
  | some (.mapping _) => true
  | _ => false

/-- Carries out the merges of a mapping that are left, given the entries merged so far. Every step
takes a merge out of the graph, so their number is enough fuel. -/
def mergeFrom : Nat → Graph → Nat → List (Nat × Nat) → Except Fault Graph
  | 0, graph, n, merged => .ok (graph.withMerged n merged)
  | fuel + 1, graph, n, merged =>
    let entries := graph.entries n
    match entries.find? graph.isMerge with
    | none => .ok (graph.withMerged n merged)
    | some (_, value) => do
      let graph := graph.withContent n (.mapping (entries.eraseP graph.isMerge))
      let (graph, more) ← (← graph.mappings value).foldlM (fun (graph, more) mapping => do
        if graph.isMapping mapping then
          let graph ← mergeFrom fuel graph mapping []
          return (graph, graph.entries mapping ++ more)
        else .error .malformed) (graph, [])
      mergeFrom fuel graph n (merged ++ more)

/-- The graph after the merges of a mapping. -/
def merge (graph : Graph) (n : Nat) : Except Fault Graph :=
  if (graph.entries n).any graph.isMerge then mergeFrom (graph.mergeCount + 1) graph n []
  else .ok (graph.withMerged n [])

end Graph
end Yaml
end FormulaTex
