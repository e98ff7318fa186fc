import FormulaTex.Yaml.Node
import FormulaTex.Yaml.Tag

/-!
# Graphs of documents

A document with every node under its tag and every alias replaced by the node that it stands for.
Nodes are known by numbers, in the order in which they are written. An anchor names one node only,
and an alias comes after its anchor, but it may stand inside the collection that the anchor names.
So the nodes make up a graph, which may have cycles.
-/

namespace FormulaTex
namespace Yaml

/-- What a node holds; its parts are given by their numbers. -/
inductive Content where
  | scalar (text : String)
  | sequence (items : List Nat)
  | mapping (entries : List (Nat × Nat))

structure Cell where
  tag : String
  content : Content

abbrev Graph := Array Cell

namespace Graph

def tag? (graph : Graph) (n : Nat) : Option String :=
  graph[n]?.map (·.tag)

def content? (graph : Graph) (n : Nat) : Option Content :=
  graph[n]?.map (·.content)

def withTag (graph : Graph) (n : Nat) (tag : String) : Graph :=
  graph.modify n fun cell => { cell with tag }

def withContent (graph : Graph) (n : Nat) (content : Content) : Graph :=
  graph.modify n fun cell => { cell with content }

/-- The entries of a mapping; no other node has any. -/
def entries (graph : Graph) (n : Nat) : List (Nat × Nat) :=
  match graph.content? n with
  | some (.mapping entries) => entries
  | _ => []

end Graph

/-- The nodes met so far, and those with a name. -/
structure Composition where
  graph : Graph
  anchors : List (String × Nat)

namespace Composition

def empty : Composition := ⟨#[], []⟩

/-- No node has the name yet. -/
def isNew (c : Composition) (p : Properties) : Bool :=
  match p.anchor with
  | some name => (c.anchors.lookup name).isNone
  | none => true

/-- A new node, which has its name before its parts are met. -/
def add (c : Composition) (p : Properties) (cell : Cell) : Except Fault (Nat × Composition) :=
  if c.isNew p then
    let n := c.graph.size
    let anchors :=
      match p.anchor with
      | some name => (name, n) :: c.anchors
      | none => c.anchors
    .ok (n, ⟨c.graph.push cell, anchors⟩)
  else .error .malformed

def fill (c : Composition) (n : Nat) (content : Content) : Composition :=
  { c with graph := c.graph.withContent n content }

/-- A tag that is left out, or a lone exclamation mark, gives way to the tag implied. -/
def tagOr (p : Properties) (implied : String) : String :=
  match p.tag with
  | some tag => if tag = "!" then implied else tag
  | none => implied

def scalarTag (p : Properties) (text : String) (isPlain : Bool) : String :=
  if isPlain || p.tag = some "!" then tagOr p (Tag.implied text.toList) else tagOr p Tag.str

mutual

/-- Adds a node with all its parts, and tells its number. -/
def addNode (c : Composition) : Node → Except Fault (Nat × Composition)
  | .alias name =>
    match c.anchors.lookup name with
    | some n => .ok (n, c)
    | none => .error .malformed
  | .scalar p text isPlain => c.add p ⟨scalarTag p text isPlain, .scalar text⟩
  | .sequence p items => do
    let (n, c) ← c.add p ⟨tagOr p Tag.seq, .sequence []⟩
    let (items, c) ← addItems c items
    return (n, c.fill n (.sequence items))
  | .mapping p entries => do
    let (n, c) ← c.add p ⟨tagOr p Tag.map, .mapping []⟩
    let (entries, c) ← addEntries c entries
    return (n, c.fill n (.mapping entries))

def addItems (c : Composition) : List Node → Except Fault (List Nat × Composition)
  | [] => .ok ([], c)
  | item :: items => do
    let (item, c) ← addNode c item
    let (items, c) ← addItems c items
    return (item :: items, c)

def addEntries (c : Composition) :
    List (Node × Node) → Except Fault (List (Nat × Nat) × Composition)
  | [] => .ok ([], c)
  | (key, value) :: entries => do
    let (key, c) ← addNode c key
    let (value, c) ← addNode c value
    let (entries, c) ← addEntries c entries
    return ((key, value) :: entries, c)

end

end Composition

/-- The graph of a document with the number of its root. -/
def Graph.ofNode (root : Node) : Except Fault (Nat × Graph) := do
  let (n, c) ← Composition.empty.addNode root
  return (n, c.graph)

end Yaml
end FormulaTex
