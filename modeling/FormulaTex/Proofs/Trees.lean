import FormulaTex.Proofs.Children

/-!
# Complete trees

A tree is complete when every child is a node, scripts apart, which may be left out, when symbols
have names, and when rows are plain. Its operators are symbols and raw text, and values of whatever
kind is let in. The walk over a complete tree skips nothing and refuses no operator but those.
-/

namespace FormulaTex

namespace Value

/-- Whether an operator is a named symbol or raw text, or else is `foreign`. -/
def IsOperatorUnless (foreign : Arity → Value → Prop) (arity : Arity) : Value → Prop
  | .symbol tag => tag.isSome = true
  | .rawText _ => True
  | operator => foreign arity operator

mutual

/-- A complete tree. Its operators may also be `foreign` values. -/
def IsTree (foreign : Arity → Value → Prop) : Value → Prop
  | .literal _ | .textRun _ => True
  | .symbol tag => tag.isSome = true
  | .sequence items _ => AreTrees foreign items
  | .parenthesized inner left right => IsTree foreign inner ∧ left ≠ some none ∧ right ≠ some none
  | .subSup base sub sup =>
    IsTree foreign base ∧ (sub = .null ∨ IsTree foreign sub) ∧ (sup = .null ∨ IsTree foreign sup)
  | .unary operator operand =>
    operator.IsOperatorUnless foreign .unary ∧ IsTree foreign operand
  | .binary operator left right =>
    operator.IsOperatorUnless foreign .binary ∧ IsTree foreign left ∧ IsTree foreign right
  | .matrix rows left right => AreTreeRows foreign rows ∧ left ≠ some none ∧ right ≠ some none
  | _ => False

def AreTrees (foreign : Arity → Value → Prop) : List Value → Prop
  | [] => True
  | item :: items => IsTree foreign item ∧ AreTrees foreign items

def AreTreeRows (foreign : Arity → Value → Prop) : List (Row Value) → Prop
  | [] => True
  | ⟨cells, separator⟩ :: rows =>
    (AreTrees foreign cells ∧ separator = none) ∧ AreTreeRows foreign rows

end

variable {foreign : Arity → Value → Prop}

theorem areTrees_iff (items : List Value) :
    AreTrees foreign items ↔ ∀ item ∈ items, item.IsTree foreign := by
  induction items with
  | nil => simp [AreTrees]
  | cons item items ih => simp [AreTrees, ih]

theorem areTreeRows_iff (rows : List (Row Value)) :
    AreTreeRows foreign rows ↔
      (∀ cell ∈ rows.flatMap Row.cells, cell.IsTree foreign) ∧
        ∀ row ∈ rows, row.separator = none := by
  induction rows with
  | nil => simp [AreTreeRows]
  | cons row rows ih =>
    obtain ⟨cells, separator⟩ := row
    rw [AreTreeRows, areTrees_iff, ih, List.flatMap_cons, List.forall_mem_append,
      List.forall_mem_cons]
    exact and_and_and_comm

def IsWhole (foreign : Arity → Value → Prop) : Value → Prop
  | .symbol tag => tag.isSome = true
  | .parenthesized _ left right => left ≠ some none ∧ right ≠ some none
  | .unary operator _ => operator.IsOperatorUnless foreign .unary
  | .binary operator _ _ => operator.IsOperatorUnless foreign .binary
  | .matrix rows left right =>
    (∀ row ∈ rows, row.separator = none) ∧ left ≠ some none ∧ right ≠ some none
  | v => v.isNode = true

/-- A script is complete if it is there at all. -/
theorem isTree_scripts (sub sup : Value) :
    (∀ c ∈ [sub, sup].filter (!·.isNull), c.IsTree foreign) ↔
      (sub = .null ∨ sub.IsTree foreign) ∧ (sup = .null ∨ sup.IsTree foreign) := by
  rw [← forall_scripts (p := fun c => c = .null ∨ c.IsTree foreign) (.inl rfl)]
  refine forall₂_congr fun c hc => ?_
  have hthere : c.isNull = false := by simpa using (List.mem_filter.mp hc).2
  have hnode : c ≠ .null := by
    rintro rfl
    cases hthere
  exact (or_iff_right hnode).symm

theorem isTree_iff (v : Value) :
    v.IsTree foreign ↔ v.IsWhole foreign ∧ ∀ c ∈ v.children, c.IsTree foreign := by
  cases v with
  | sequence items separator =>
    simp only [IsTree, IsWhole, children, areTrees_iff, isNode, true_and]
  | parenthesized inner left right =>
    simp only [IsTree, IsWhole, children, List.forall_mem_singleton]
    exact and_comm
  | subSup base sub sup =>
    simp only [IsTree, IsWhole, children, List.forall_mem_cons, isTree_scripts, isNode, true_and]
  | unary operator operand => simp only [IsTree, IsWhole, children, List.forall_mem_singleton]
  | binary operator left right =>
    simp only [IsTree, IsWhole, children, List.forall_mem_cons (l := [right]),
      List.forall_mem_singleton]
  | matrix rows left right =>
    simp only [IsTree, IsWhole, children, areTreeRows_iff]
    rw [and_assoc]
    exact and_comm
  | _ => simp [IsTree, IsWhole, children, isNode]

theorem isNode_of_isWhole {v : Value} (h : v.IsWhole foreign) : v.isNode = true := by
  cases v <;> first | rfl | cases h

/-- An operator of a complete tree that cannot be written is foreign. -/
theorem foreign_of_isWhole {v operator : Value} {arity : Arity} (h : v.IsWhole foreign)
    (hoperation : v.operation? = some (arity, operator)) (hoperator : operator.isOperator = false) :
    foreign arity operator := by
  have hunless : operator.IsOperatorUnless foreign arity := by
    cases v <;> cases hoperation <;> exact h
  cases operator <;> first | exact hunless | cases hoperator

end Value

def Step.IsSound (foreign : Arity → Value → Prop) (level : Nat) : Step → Prop
  | enter l => l ≤ level
  | skip _ => False
  | refuse operator arity => foreign arity operator
  | _ => True

variable {foreign : Arity → Value → Prop} {s : Step}

theorem Step.IsSound.mono {level lower : Nat} (h : s.IsSound foreign level)
    (hlower : level ≤ lower) : s.IsSound foreign lower := by
  cases s with
  | enter l => exact Nat.le_trans h hlower
  | _ => exact h

theorem Step.isSound_of_isOwn {depth : Nat} {v : Value} (hv : v.IsWhole foreign)
    (h : s.IsOwn depth v) : s.IsSound foreign (depth + v.height) := by
  cases s with
  | enter l => exact h
  | skip typeName =>
    rw [IsOwn, Value.isNode_of_isWhole hv] at h
    cases h
  | refuse operator arity => exact Value.foreign_of_isWhole hv h.1 h.2
  | _ => trivial

theorem Steps.isSound_of {depth : Nat} {v : Value} (h : v.IsTree foreign) :
    ∀ s ∈ of depth v, s.IsSound foreign (depth + v.height) := by
  induction v using Value.children_induction generalizing depth with
  | step v ih =>
    obtain ⟨hroot, hchildren⟩ := (Value.isTree_iff v).mp h
    refine forall_of (fun s hs => Step.isSound_of_isOwn hroot hs) fun c hc hlower s hs => ?_
    exact (ih c hc (hchildren c hc) s hs).mono (by omega)

theorem Steps.exists_of_note {r : Renderer} {steps : List Step} {note : Note}
    (h : note ∈ (draft r steps).notes) : ∃ s ∈ steps, note ∈ s.notes r := by
  induction steps with
  | nil => cases h
  | cons s rest ih =>
    rw [draft, Draft.append_def, Draft.append] at h
    split at h
    · obtain hs | hrest := List.mem_append.mp h
      · exact ⟨s, List.mem_cons_self, hs⟩
      · obtain ⟨t, ht, hnote⟩ := ih hrest
        exact ⟨t, List.mem_cons_of_mem s ht, hnote⟩
    · exact ⟨s, List.mem_cons_self, h⟩

theorem Steps.exists_of_fault {r : Renderer} {steps : List Step} {fault : RenderFault}
    (h : (draft r steps).outcome = .error fault) :
    ∃ s ∈ steps, s.fault? r.settings.maxDepth = some fault := by
  rw [outcome_draft] at h
  split at h
  · rename_i hfault
    cases h
    exact List.exists_of_findSome?_eq_some hfault
  · cases h

namespace Renderer

variable {r : Renderer} {tree : Value}

theorem not_skipped_of_isTree (h : tree.IsTree foreign) (typeName : String) :
    .skipped typeName ∉ (r.render tree).notes := by
  intro hmem
  rw [render_eq_draft] at hmem
  obtain ⟨s, hs, hnote⟩ := Steps.exists_of_note hmem
  have hsound := Steps.isSound_of h s hs
  cases s with
  | look tag =>
    have hlook : r.note? tag = some (.skipped typeName) := by simpa [Step.notes] using hnote
    unfold note? at hlook
    split at hlook
    · split_ifs at hlook
      cases hlook
    · cases hlook
  | skip name => exact hsound
  | _ => cases hnote

theorem fault_of_isTree (h : tree.IsTree foreign) {fault : RenderFault}
    (hfault : (r.render tree).outcome = .error fault) :
    (fault = .tooDeep r.settings.maxDepth ∧ r.settings.maxDepth < tree.height) ∨
      ∃ arity operator, foreign arity operator ∧ fault = .ofOperator operator arity := by
  rw [render_eq_draft] at hfault
  obtain ⟨s, hs, hstep⟩ := Steps.exists_of_fault hfault
  have hsound := Steps.isSound_of h s hs
  rw [Nat.zero_add] at hsound
  cases s with
  | enter level =>
    simp only [Step.fault?] at hstep
    split_ifs at hstep with hdeep
    cases hstep
    exact .inl ⟨rfl, Nat.lt_of_lt_of_le hdeep hsound⟩
  | refuse operator arity =>
    cases hstep
    exact .inr ⟨arity, operator, hsound, rfl⟩
  | _ => cases hstep

theorem clear_of_ok {latex : String} (h : (r.render tree).outcome = .ok latex) :
    Steps.Clear r.settings.maxDepth (Steps.of 0 tree) := by
  rw [render_eq_draft, Steps.outcome_draft] at h
  split at h
  · cases h
  · rename_i hnone
    exact List.findSome?_eq_none_iff.mp hnone

theorem isOperable_of_ok {latex : String} (h : (r.render tree).outcome = .ok latex) :
    tree.isOperable = true :=
  ((Steps.clear_of (Nat.zero_le _) tree).mp (clear_of_ok h)).2

end Renderer

end FormulaTex
