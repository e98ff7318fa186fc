import FormulaTex.Value

/-!
# Values in scope

A part of a collection that contains itself may hold cycles that lead out of the part. What they
stand for depends on the collections around the part, its scope. Taken on its own, the part has
each of them replaced by the collection that it stands for. That collection may lead back into the
part, or out of it again further up, so the scope of the replacement is the one around it. A
collection that is met inside itself stays a cycle.
-/

namespace FormulaTex

namespace Value

mutual

/-- Replaces the cycles that lead out of a value. `opened` are the labels of the collections that
the value is inside of; `outer` gives the collection for any other label. -/
def filled (outer : List Nat → Nat → Option Value) (opened : List Nat) : Value → Value
  | .list none items => .list none (allFilled outer opened items)
  | .list (some label) items =>
    if opened.contains label then .cycle label .list
    else .list (some label) (allFilled outer (label :: opened) items)
  | .map none entries => .map none (entriesFilled outer opened entries)
  | .map (some label) entries =>
    if opened.contains label then .cycle label .map
    else .map (some label) (entriesFilled outer (label :: opened) entries)
  | .cycle label shape =>
    if opened.contains label then .cycle label shape
    else (outer opened label).getD (.cycle label shape)
  | .tuple items => .tuple (allFilled outer opened items)
  | v => v

def allFilled (outer : List Nat → Nat → Option Value) (opened : List Nat) :
    List Value → List Value
  | [] => []
  | item :: items => filled outer opened item :: allFilled outer opened items

def entriesFilled (outer : List Nat → Nat → Option Value) (opened : List Nat) :
    List (Scalar × Value) → List (Scalar × Value)
  | [] => []
  | (key, item) :: entries => (key, filled outer opened item) :: entriesFilled outer opened entries

end

end Value

/-- The labelled collections around a place, the nearest first. -/
abbrev Scope := List (Nat × Value)

namespace Scope

/-- The scope inside a collection with an optional label. -/
def enter (label : Option Nat) (collection : Value) (scope : Scope) : Scope :=
  match label with
  | none => scope
  | some label => (label, collection) :: scope

/-- The collection around a place that has a label, seen from inside the collections opened. -/
def collection? : Scope → List Nat → Nat → Option Value
  | [], _, _ => none
  | (name, collection) :: outer, opened, label =>
    if name = label then some (collection.filled (collection? outer) opened)
    else collection? outer opened label

/-- A part of the nearest collection on its own. -/
def alone (scope : Scope) (part : Value) : Value :=
  match scope with
  | [] => part
  | scope => part.filled scope.collection? []

@[simp] theorem alone_nil (part : Value) : alone [] part = part := rfl

end Scope

namespace Value

/-- The entries of a mapping, each value on its own. -/
def entries? (v : Value) : Option (List (Scalar × Value)) :=
  match v with
  | .map none entries => some entries
  | .map (some label) entries =>
    some (entries.map fun (key, item) => (key, Scope.alone [(label, v)] item))
  | _ => none

end Value

end FormulaTex
