import FormulaTex.Value.SetOrder
import FormulaTex.Yaml.Graph.Merge
import FormulaTex.Yaml.Scalar

/-!
# Objects of documents

The objects that the nodes of a graph stand for. Collections are built level by level: a collection
is there, empty, before its parts are, and the parts of all collections of one level are built
before those of the next. So of several faults the one nearest to the root counts, and of those on
one level the first. A node that is met again stands for the same object.

A value views the objects from one of them. A collection that is met inside itself is a cycle there.
-/

namespace FormulaTex
namespace Yaml

/-- The parts of a collection are given by the numbers of their nodes. -/
inductive Object where
  | scalar (s : Scalar)
  | list (items : List Nat)
  | pairs (pairs : List (Nat × Nat))
  | map (entries : List (Scalar × Nat))
  | set (members : List Scalar)

namespace Object

/-- The empty collection of a tag; no other tag is one of collections. -/
def empty? (tag : String) : Option Object :=
  if tag = Tag.seq then some (.list [])
  else if tag = Tag.omap ∨ tag = Tag.pairs then some (.pairs [])
  else if tag = Tag.map then some (.map [])
  else if tag = Tag.set then some (.set [])
  else none

end Object

/-- The value of a mapping that marks one. -/
def Graph.marked? (graph : Graph) (n : Nat) : Option Nat :=
  ((graph.entries n).find? fun (key, _) => graph.tag? key = some Tag.value).map (·.2)

/-- The text of a scalar, or of the node that a mapping marks. Marks that go in a circle lead to no
text. -/
def Graph.textOf (graph : Graph) : Nat → Nat → Except Fault String
  | 0, _ => .error .tooDeep
  | fuel + 1, n =>
    match graph.content? n, graph.marked? n with
    | some (.scalar text), _ => .ok text
    | _, some marked => graph.textOf fuel marked
    | _, none => .error .malformed

/-- The objects that are there so far. The collections whose parts are not there yet are `waiting`,
the latest first. -/
structure Building where
  graph : Graph
  objects : Array (Option Object)
  waiting : List Nat

namespace Building

def start (graph : Graph) : Building :=
  ⟨graph, Array.replicate graph.size none, []⟩

def object? (b : Building) (n : Nat) : Option Object :=
  b.objects[n]?.join

def put (b : Building) (n : Nat) (object : Object) : Building :=
  { b with objects := b.objects.setIfInBounds n (some object) }

/-- The scalar of a node. A point in time cannot be marked by a mapping. -/
def scalar (b : Building) (n : Nat) (tag : String) : Except Fault Scalar := do
  let text ← b.graph.textOf (b.graph.size + 1) n
  if tag = Tag.timestamp ∧ b.graph.isMapping n then .error .notText
  else readScalar tag text.toList

/-- Makes the object of a node, unless it is there. -/
def make (b : Building) (n : Nat) : Except Fault Building :=
  match b.object? n, b.graph.tag? n with
  | some _, _ => .ok b
  | none, none => .error .malformed
  | none, some tag =>
    match Object.empty? tag with
    | some object => .ok { b.put n object with waiting := n :: b.waiting }
    | none =>
      if Tag.ofScalars.contains tag then do return b.put n (.scalar (← b.scalar n tag))
      else .error .malformed

/-- A key has to be a scalar; a collection is none even before its parts are there. -/
def key (b : Building) (n : Nat) : Except Fault Scalar :=
  match b.object? n with
  | some (.scalar s) => .ok s
  | _ => .error .malformed

def makeEntries (b : Building) :
    List (Nat × Nat) → Except Fault (List (Scalar × Nat) × Building)
  | [] => .ok ([], b)
  | (key, value) :: rest => do
    let b ← b.make key
    let s ← b.key key
    let b ← b.make value
    let (entries, b) ← makeEntries b rest
    return ((s, value) :: entries, b)

/-- Makes the only entry of every item; an item without exactly one is a fault. -/
def makePairs (b : Building) : List Nat → Except Fault (List (Nat × Nat) × Building)
  | [] => .ok ([], b)
  | item :: items =>
    match b.graph.entries item with
    | [(key, value)] => do
      let b ← b.make key
      let b ← b.make value
      let (pairs, b) ← makePairs b items
      return ((key, value) :: pairs, b)
    | _ => .error .malformed

/-- Makes the entries of a mapping after its merges. -/
def makeMapping (b : Building) (n : Nat) : Except Fault (List (Scalar × Nat) × Building) := do
  let b := { b with graph := ← b.graph.merge n }
  let (entries, b) ← b.makeEntries (b.graph.entries n)
  return (entriesOf entries, b)

/-- Makes the parts of a collection. -/
def finish (b : Building) (n : Nat) : Except Fault Building :=
  match b.object? n, b.graph.content? n with
  | some (.list _), some (.sequence items) => do
    return (← items.foldlM make b).put n (.list items)
  | some (.pairs _), some (.sequence items) => do
    let (pairs, b) ← b.makePairs items
    return b.put n (.pairs pairs)
  | some (.map _), some (.mapping _) => do
    let (entries, b) ← b.makeMapping n
    return b.put n (.map entries)
  | some (.set _), some (.mapping _) => do
    let (entries, b) ← b.makeMapping n
    return b.put n (.set (SetOrder.listed (entries.map (·.1))))
  | _, _ => .error .malformed

/-- Finishes all collections, level by level. A collection waits once only, so their number is
enough fuel. -/
def finishAll : Nat → Building → Except Fault Building
  | 0, b => .ok b
  | fuel + 1, b =>
    if b.waiting.isEmpty then .ok b
    else do finishAll fuel (← b.waiting.reverse.foldlM finish { b with waiting := [] })

end Building

/-- The objects of all nodes that the root leads to. -/
def Graph.objects (graph : Graph) (root : Nat) : Except Fault (Array (Option Object)) := do
  let b ← ((Building.start graph).make root)
  return (← b.finishAll (graph.size + 1)).objects

/-- A value, with the labels of the cycles that lead out of it. -/
structure View where
  value : Value
  leading : List Nat

namespace View

def ofScalar (s : Scalar) : View := ⟨.scalar s, []⟩

/-- A collection that needs its label only if some cycle leads to it or out of it. -/
def ofParts (n : Nat) (leading : List Nat) (collection : Option Nat → Value) : View :=
  ⟨collection (if leading.isEmpty then none else some n), leading.filter (· != n)⟩

def ofCycle (n : Nat) (shape : Shape) : View := ⟨.cycle n shape, [n]⟩

/-- The view of an object from inside the collections opened. No collection is opened twice, so the
number of nodes is enough fuel. -/
def ofObject (objects : Array (Option Object)) : Nat → List Nat → Nat → View
  | 0, _, _ => ofScalar .null
  | fuel + 1, opened, n =>
    let part := ofObject objects fuel (n :: opened)
    match objects[n]?.join with
    | none => ofScalar .null
    | some (.scalar s) => ofScalar s
    | some (.set members) => ⟨.set members, []⟩
    | some (.list items) =>
      if opened.contains n then ofCycle n .list
      else
        let parts := items.map part
        ofParts n (parts.flatMap (·.leading)) fun label => .list label (parts.map (·.value))
    | some (.pairs pairs) =>
      if opened.contains n then ofCycle n .list
      else
        let parts := pairs.map fun (key, value) => (part key, part value)
        ofParts n (parts.flatMap fun (key, value) => key.leading ++ value.leading) fun label =>
          .list label (parts.map fun (key, value) => .tuple [key.value, value.value])
    | some (.map entries) =>
      if opened.contains n then ofCycle n .map
      else
        let parts := entries.map fun (key, value) => (key, part value)
        ofParts n (parts.flatMap (·.2.leading)) fun label =>
          .map label (parts.map fun (key, value) => (key, value.value))

end View

/-- The value of a graph at its root, or the first fault on the first level that has one. -/
def Graph.toValue (graph : Graph) (root : Nat) : Except Fault Value := do
  return (View.ofObject (← graph.objects root) (graph.size + 1) [] root).value

end Yaml
end FormulaTex
