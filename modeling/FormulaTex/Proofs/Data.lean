import FormulaTex.Proofs.Places

/-!
# Plain data

Data is plain when no node has been built inside it, as in all that a parser of documents makes. It
is finite when no collection contains itself; then no place in it has a scope, and a part on its own
is the part itself. Whatever is inside plain or finite data is so too.
-/

namespace FormulaTex

namespace Value

mutual

/-- Whether a test holds of a value and of all values inside its collections. -/
def everywhere (test : Value → Bool) : Value → Bool
  | .list label items => test (.list label items) && allEverywhere test items
  | .tuple items => test (.tuple items) && allEverywhere test items
  | .map label entries => test (.map label entries) && entriesEverywhere test entries
  | v => test v

def allEverywhere (test : Value → Bool) : List Value → Bool
  | [] => true
  | item :: items => everywhere test item && allEverywhere test items

def entriesEverywhere (test : Value → Bool) : List (Scalar × Value) → Bool
  | [] => true
  | (_, item) :: entries => everywhere test item && entriesEverywhere test entries

end

def isDatum : Value → Bool
  | .scalar _ | .list .. | .tuple _ | .set _ | .map .. | .cycle .. => true
  | _ => false

/-- No node, and no raw text, is inside. -/
def isPlain (v : Value) : Bool :=
  v.everywhere isDatum

def isUnlabelled : Value → Bool
  | .list label _ | .map label _ => label.isNone
  | .cycle .. => false
  | _ => true

/-- No collection inside contains itself. -/
def isFinite (v : Value) : Bool :=
  v.everywhere isUnlabelled

variable {test : Value → Bool}

theorem everywhere_self {v : Value} (h : v.everywhere test = true) : test v = true := by
  cases v with
  | list label items => exact (Bool.and_eq_true_iff.mp h).1
  | tuple items => exact (Bool.and_eq_true_iff.mp h).1
  | map label entries => exact (Bool.and_eq_true_iff.mp h).1
  | _ => exact h

theorem everywhere_of_mem {items : List Value} (h : allEverywhere test items = true)
    {item : Value} (hmem : item ∈ items) : item.everywhere test = true := by
  induction items with
  | nil => cases hmem
  | cons first items ih =>
    obtain ⟨hfirst, hrest⟩ := Bool.and_eq_true_iff.mp h
    obtain rfl | hmem := List.mem_cons.mp hmem
    · exact hfirst
    · exact ih hrest hmem

theorem everywhere_of_field? {entries : List (Scalar × Value)}
    (h : entriesEverywhere test entries = true) {name : String} {value : Value}
    (hfield : field? name entries = some value) : value.everywhere test = true := by
  induction entries with
  | nil => cases hfield
  | cons entry entries ih =>
    obtain ⟨key, item⟩ := entry
    obtain ⟨hitem, hrest⟩ := Bool.and_eq_true_iff.mp h
    rw [Layout.field?_cons] at hfield
    split_ifs at hfield
    · cases hfield
      exact hitem
    · exact ih hrest hfield

mutual

theorem everywhere_isSpellable :
    (v : Value) → v.isSpellable = true → v.everywhere isSpellable = true
  | .list _ items, h => Bool.and_eq_true_iff.mpr ⟨h, allEverywhere_isSpellable items h⟩
  | .tuple items, h => Bool.and_eq_true_iff.mpr ⟨h, allEverywhere_isSpellable items h⟩
  | .map _ entries, h => Bool.and_eq_true_iff.mpr ⟨h, entriesEverywhere_isSpellable entries h⟩
  | .scalar _, h | .set _, h | .cycle .., h | .literal _, h | .symbol _, h | .rawText _, h
  | .sequence .., h | .textRun _, h | .parenthesized .., h | .subSup .., h | .unary .., h
  | .binary .., h | .matrix .., h => h

theorem allEverywhere_isSpellable :
    (items : List Value) → allSpellable items = true → allEverywhere isSpellable items = true
  | [], _ => rfl
  | item :: items, h => by
    obtain ⟨hitem, hrest⟩ := Bool.and_eq_true_iff.mp h
    exact Bool.and_eq_true_iff.mpr
      ⟨everywhere_isSpellable item hitem, allEverywhere_isSpellable items hrest⟩

theorem entriesEverywhere_isSpellable :
    (entries : List (Scalar × Value)) → entriesSpellable entries = true →
      entriesEverywhere isSpellable entries = true
  | [], _ => rfl
  | (key, item) :: entries, h => by
    obtain ⟨hentry, hrest⟩ := Bool.and_eq_true_iff.mp h
    have hitem := (Bool.and_eq_true_iff.mp hentry).2
    exact Bool.and_eq_true_iff.mpr
      ⟨everywhere_isSpellable item hitem, entriesEverywhere_isSpellable entries hrest⟩

end

theorem isNode_of_isPlain {v : Value} (h : v.isPlain = true) : v.isNode = false := by
  have hself := everywhere_self h
  cases v <;> first | rfl | cases hself

theorem isOperator_of_isPlain {v : Value} (h : v.isPlain = true) : v.isOperator = false := by
  have hself := everywhere_self h
  cases v <;> first | rfl | cases hself

/-- A part on its own is an operator only if it is one where it stands, or a cycle stands for
one. -/
theorem isOperator_filled {outer : List Nat → Nat → Option Value}
    (houter : ∀ opened label c, outer opened label = some c → c.isOperator = false)
    (opened : List Nat) {v : Value} (h : v.isOperator = false) :
    (v.filled outer opened).isOperator = false := by
  cases v with
  | list label items =>
    cases label with
    | none => rfl
    | some label =>
      rw [filled]
      split_ifs <;> rfl
  | map label entries =>
    cases label with
    | none => rfl
    | some label =>
      rw [filled]
      split_ifs <;> rfl
  | cycle label shape =>
    rw [filled]
    split_ifs
    · rfl
    · cases hc : outer opened label with
      | none => rfl
      | some c => exact houter opened label c hc
  | tuple items => rfl
  | _ => exact h

end Value

/-- The collections of a scope are lists and mappings, and not operators. -/
def Scope.IsProper (scope : Scope) : Prop :=
  ∀ entry ∈ scope, entry.2.isOperator = false

namespace Scope.IsProper

variable {scope : Scope}

theorem collection? (hscope : scope.IsProper) {opened : List Nat} {label : Nat} {c : Value}
    (h : scope.collection? opened label = some c) : c.isOperator = false := by
  induction scope generalizing opened label c with
  | nil => cases h
  | cons entry outer ih =>
    obtain ⟨name, collection⟩ := entry
    obtain ⟨hcollection, houter⟩ := List.forall_mem_cons.mp hscope
    rw [Scope.collection?] at h
    split_ifs at h
    · cases h
      exact Value.isOperator_filled (fun _ _ _ hc => ih houter hc) opened hcollection
    · exact ih houter h

theorem alone (hscope : scope.IsProper) {v : Value} (h : v.isOperator = false) :
    (scope.alone v).isOperator = false := by
  cases scope with
  | nil => exact h
  | cons entry outer => exact Value.isOperator_filled (fun _ _ _ hc => hscope.collection? hc) [] h

end Scope.IsProper

namespace Layout.Place

variable {p q : Place} {test : Value → Bool}

theorem everywhere_inside (h : Inside p q) (hp : p.value.everywhere test = true) :
    q.value.everywhere test = true := by
  obtain hitem | ⟨name, hentry⟩ := h
  · obtain ⟨label, items, hvalue, hmem, -⟩ := mem_items hitem
    rw [hvalue] at hp
    exact Value.everywhere_of_mem (Bool.and_eq_true_iff.mp hp).2 hmem
  · obtain ⟨label, entries, hvalue, hfield, -⟩ := mem_entry hentry
    rw [hvalue] at hp
    exact Value.everywhere_of_field? (Bool.and_eq_true_iff.mp hp).2 hfield

theorem scope_inside (h : Inside p q) : q.scope = p.inner := by
  obtain hitem | ⟨name, hentry⟩ := h
  · obtain ⟨_, _, _, _, hscope⟩ := mem_items hitem
    exact hscope
  · obtain ⟨_, _, _, _, hscope⟩ := mem_entry hentry
    exact hscope

/-- What is handed on to the members of a collection is handed on to all that is read in it. -/
theorem inherit {motive : Place → Prop} (step : ∀ {p q}, Inside p q → motive p → motive q)
    (h : Above p q) (hp : motive p) : motive q := by
  induction h with
  | refl => exact hp
  | tail _ hpart ih =>
    have hinside := inside_of_mem_parts hpart
    clear hpart
    induction hinside with
    | single hmember => exact step hmember ih
    | tail _ hmember ih => exact step hmember ih

theorem isProper_inner (hp : p.scope.IsProper) : p.inner.IsProper := by
  have henter : ∀ label, p.value.isOperator = false →
      (p.scope.enter label p.value).IsProper := by
    intro label hvalue
    cases label with
    | none => exact hp
    | some label => exact List.forall_mem_cons.mpr ⟨hvalue, hp⟩
  unfold inner
  split
  · rename_i label items hvalue
    exact henter label (by rw [hvalue]; rfl)
  · rename_i label entries hvalue
    exact henter label (by rw [hvalue]; rfl)
  · exact hp

structure IsPlain (p : Place) : Prop where
  value : p.value.isPlain = true
  scope : p.scope.IsProper

theorem isPlain_root {document : Value} (h : document.isPlain = true) : (root document).IsPlain :=
  ⟨h, nofun⟩

theorem IsPlain.inside (h : Inside p q) (hp : p.IsPlain) : q.IsPlain where
  value := everywhere_inside h hp.value
  scope := scope_inside h ▸ isProper_inner hp.scope

theorem isPlain_above {document : Value} (hplain : document.isPlain = true)
    (habove : (root document).Above p) : p.IsPlain :=
  inherit IsPlain.inside habove (isPlain_root hplain)

theorem IsPlain.isNode (hp : p.IsPlain) : p.value.isNode = false :=
  Value.isNode_of_isPlain hp.value

/-- A place of finite data. There are no collections around it that anything inside could mean. -/
structure IsFinite (p : Place) : Prop where
  value : p.value.isFinite = true
  scope : p.scope = []

theorem isFinite_root {document : Value} (h : document.isFinite = true) :
    (root document).IsFinite :=
  ⟨h, rfl⟩

theorem IsFinite.inner (hp : p.IsFinite) : p.inner = [] := by
  have hself := Value.everywhere_self hp.value
  unfold Place.inner
  split
  · rename_i label items hvalue
    rw [hvalue] at hself
    rw [Option.isNone_iff_eq_none.mp hself, hp.scope]
    rfl
  · rename_i label entries hvalue
    rw [hvalue] at hself
    rw [Option.isNone_iff_eq_none.mp hself, hp.scope]
    rfl
  · exact hp.scope

theorem IsFinite.inside (h : Inside p q) (hp : p.IsFinite) : q.IsFinite where
  value := everywhere_inside h hp.value
  scope := (scope_inside h).trans hp.inner

theorem isFinite_above {document : Value} (hfinite : document.isFinite = true)
    (habove : (root document).Above p) : p.IsFinite :=
  inherit IsFinite.inside habove (isFinite_root hfinite)

end Layout.Place

end FormulaTex
