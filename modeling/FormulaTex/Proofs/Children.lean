import FormulaTex.Proofs.Outcome

/-!
# The children of a node

What is said of all nodes of a tree is said of a node and of its children. The steps of the walk
over a value are the value's own and those of the walks over its children, one level further down.
Its own steps write, enter a level that the height of the value allows, refuse the operator of the
value or skip the value itself.
-/

namespace FormulaTex

namespace Value

@[simp] theorem isNull_null : isNull .null = true := rfl

theorem isNull_of_isNode {v : Value} (h : v.isNode = true) : v.isNull = false := by
  cases v <;> first | rfl | cases h

theorem eq_null_of_isNull {v : Value} (h : v.isNull = true) : v = .null := by
  unfold isNull at h
  split at h
  · rfl
  · cases h

/-- The nodes right below a node. A script that is left out is none. -/
def children : Value → List Value
  | .sequence items _ => items
  | .parenthesized inner _ _ => [inner]
  | .subSup base sub sup => base :: [sub, sup].filter (!·.isNull)
  | .unary _ operand => [operand]
  | .binary _ left right => [left, right]
  | .matrix rows _ _ => rows.flatMap Row.cells
  | _ => []

def operation? : Value → Option (Arity × Value)
  | .unary operator _ => some (.unary, operator)
  | .binary operator _ _ => some (.binary, operator)
  | _ => none

/-- A value that has children is no index that is left out. -/
theorem isNoIndex_of_mem_children {v c : Value} (h : c ∈ v.children) :
    Renderer.isNoIndex v = false := by
  cases v with
  | sequence items separator =>
    exact List.isEmpty_eq_false_iff.mpr (List.ne_nil_of_mem h)
  | scalar s | literal text => cases h
  | _ => rfl

theorem sizeOf_children {v c : Value} (h : c ∈ v.children) : sizeOf c < sizeOf v := by
  cases v with
  | sequence items separator =>
    have := List.sizeOf_lt_of_mem (show c ∈ items from h)
    simp only [sequence.sizeOf_spec]
    omega
  | matrix rows left right =>
    obtain ⟨⟨cells, separator⟩, hrow, hcell⟩ := List.mem_flatMap.mp h
    have hcells := List.sizeOf_lt_of_mem (show c ∈ cells from hcell)
    have hrows := List.sizeOf_lt_of_mem hrow
    simp only [Row.mk.sizeOf_spec, matrix.sizeOf_spec] at hrows ⊢
    omega
  | subSup base sub sup =>
    rw [subSup.sizeOf_spec]
    obtain rfl | hscript := List.mem_cons.mp h
    · omega
    · have hmem := (List.mem_filter.mp hscript).1
      simp only [List.mem_cons, List.not_mem_nil, or_false] at hmem
      obtain rfl | rfl := hmem <;> omega
  | parenthesized inner left right =>
    simp only [children, List.mem_singleton] at h
    subst h
    rw [parenthesized.sizeOf_spec]
    omega
  | unary operator operand =>
    simp only [children, List.mem_singleton] at h
    subst h
    rw [unary.sizeOf_spec]
    omega
  | binary operator left right =>
    simp only [children, List.mem_cons, List.not_mem_nil, or_false] at h
    rw [binary.sizeOf_spec]
    obtain rfl | rfl := h <;> omega
  | _ => cases h

/-- What holds of a node when it holds of its children holds of every node. -/
theorem children_induction {motive : Value → Prop}
    (step : ∀ v, (∀ c ∈ v.children, motive c) → motive v) (v : Value) : motive v :=
  step v fun c _ => children_induction step c
termination_by sizeOf v
decreasing_by exact sizeOf_children ‹_›

theorem areOperable_iff (items : List Value) :
    areOperable items = true ↔ ∀ item ∈ items, item.isOperable = true := by
  induction items with
  | nil => simp [areOperable]
  | cons item items ih => simp [areOperable_cons, ih]

theorem areOperableRows_iff (rows : List (Row Value)) :
    areOperableRows rows = true ↔ ∀ cell ∈ rows.flatMap Row.cells, cell.isOperable = true := by
  induction rows with
  | nil => simp [areOperableRows]
  | cons row rows ih =>
    rw [areOperableRows_cons, Bool.and_eq_true, areOperable_iff, ih, List.flatMap_cons]
    simp only [List.mem_append, or_imp, forall_and]

theorem forall_scripts {p : Value → Prop} (hnull : p .null) (sub sup : Value) :
    (∀ c ∈ [sub, sup].filter (!·.isNull), p c) ↔ p sub ∧ p sup := by
  have hscript : ∀ script : Value, script.isNull = true → p script := by
    intro script h
    rw [eq_null_of_isNull h]
    exact hnull
  cases hsub : sub.isNull <;> cases hsup : sup.isNull <;> simp [*]

theorem isOperable_iff (v : Value) :
    v.isOperable = true ↔
      (∀ arity operator, v.operation? = some (arity, operator) → operator.isOperator = true) ∧
        ∀ c ∈ v.children, c.isOperable = true := by
  cases v with
  | sequence items separator => simp [isOperable, operation?, children, areOperable_iff]
  | matrix rows left right =>
    simpa [isOperable, operation?, children] using areOperableRows_iff rows
  | subSup base sub sup =>
    have hscripts := forall_scripts (p := fun c => c.isOperable = true) rfl sub sup
    simp only [isOperable, operation?, children, List.forall_mem_cons, hscripts, Bool.and_eq_true,
      and_assoc]
    simp
  | parenthesized inner left right => simp [isOperable, operation?, children]
  | unary operator operand => simp [isOperable, operation?, children]
  | binary operator left right => simp [isOperable, operation?, children, and_assoc]
  | _ => simp [isOperable, operation?, children]

theorem height_le_heightOfAll {item : Value} {items : List Value} (h : item ∈ items) :
    item.height ≤ heightOfAll items := by
  induction items with
  | nil => cases h
  | cons first items ih =>
    rw [heightOfAll_cons]
    obtain rfl | h := List.mem_cons.mp h
    · exact Nat.le_max_left _ _
    · exact Nat.le_trans (ih h) (Nat.le_max_right _ _)

theorem height_le_heightOfRows {cell : Value} {rows : List (Row Value)}
    (h : cell ∈ rows.flatMap Row.cells) : cell.height ≤ heightOfRows rows := by
  induction rows with
  | nil => cases h
  | cons row rows ih =>
    rw [heightOfRows_cons]
    rw [List.flatMap_cons] at h
    obtain h | h := List.mem_append.mp h
    · exact Nat.le_trans (height_le_heightOfAll h) (Nat.le_max_left _ _)
    · exact Nat.le_trans (ih h) (Nat.le_max_right _ _)

end Value

namespace Step

def isWrite : Step → Bool
  | mark _ | look _ | raw _ | gap _ | content _ => true
  | _ => false

/-- The steps that the walk over a value `depth` levels down may take for the value itself. -/
def IsOwn (depth : Nat) (v : Value) : Step → Prop
  | enter level => level ≤ depth + v.height
  | skip _ => v.isNode = false
  | refuse operator arity => v.operation? = some (arity, operator) ∧ operator.isOperator = false
  | _ => True

theorem isOwn_of_isWrite {depth : Nat} {v : Value} {s : Step} (h : s.isWrite = true) :
    s.IsOwn depth v := by
  cases s <;> trivial

end Step

namespace Steps

section

variable {q : Step → Prop} (hwrite : ∀ s : Step, s.isWrite = true → q s)
variable {depth : Nat} {a b : List Step}
include hwrite

theorem forall_braced (ha : ∀ s ∈ a, q s) : ∀ s ∈ braced a, q s := by
  simp only [braced, List.forall_mem_append, List.forall_mem_singleton]
  exact ⟨hwrite _ rfl, ha, hwrite _ rfl⟩

theorem forall_upright (text : String) : ∀ s ∈ upright text, q s := by
  simp only [upright, List.forall_mem_append, List.forall_mem_singleton]
  exact ⟨hwrite _ rfl, hwrite _ rfl, hwrite _ rfl⟩

theorem forall_literal (text : String) : ∀ s ∈ literal text, q s := by
  unfold literal
  split_ifs
  · exact forall_upright hwrite text
  · exact List.forall_mem_singleton.mpr (hwrite _ rfl)

theorem forall_delimited (left right : Option Tag) (ha : ∀ s ∈ a, q s) :
    ∀ s ∈ delimited left right a, q s := by
  unfold delimited
  split
  · exact ha
  · simp only [List.forall_mem_append, List.forall_mem_singleton]
    exact ⟨hwrite _ rfl, hwrite _ rfl, hwrite _ rfl, ha, hwrite _ rfl, hwrite _ rfl⟩

theorem forall_grouped (argument : Value) (ha : ∀ s ∈ a, q s) :
    ∀ s ∈ grouped argument a, q s := by
  unfold grouped
  split_ifs
  · exact forall_braced hwrite ha
  · exact ha

theorem forall_script (mark : String) (argument : Value)
    (ha : argument.isNull = false → ∀ s ∈ a, q s) : ∀ s ∈ script mark argument a, q s := by
  unfold script
  split_ifs with hnull
  · nofun
  · simp only [List.forall_mem_append, List.forall_mem_singleton]
    exact ⟨hwrite _ rfl, forall_grouped hwrite argument (ha (by simpa using hnull))⟩

theorem forall_unary (operator : Value)
    (hframe : operator.isTag "overarc" = true → q (.enter (depth + 1)))
    (hrefuse : operator.isOperator = false → q (.refuse operator .unary)) (ha : ∀ s ∈ a, q s) :
    ∀ s ∈ unary depth operator a, q s := by
  have hbraced := forall_braced hwrite ha
  cases operator with
  | symbol tag =>
    simp only [unary, applied]
    split_ifs with hnorm hfloor hceil harc
    · exact forall_delimited hwrite _ _ ha
    · exact forall_delimited hwrite _ _ ha
    · exact forall_delimited hwrite _ _ ha
    · have hfrown : ∀ s ∈ [.enter (depth + 1)] ++ [.look (some "frown")], q s := by
        simp only [List.forall_mem_append, List.forall_mem_singleton]
        exact ⟨hframe (by simp [Value.isTag, harc]), hwrite _ rfl⟩
      have hparts := List.forall_mem_append.mpr ⟨forall_braced hwrite hfrown, hbraced⟩
      exact List.forall_mem_append.mpr ⟨List.forall_mem_singleton.mpr (hwrite _ rfl), hparts⟩
    · exact List.forall_mem_append.mpr ⟨List.forall_mem_singleton.mpr (hwrite _ rfl), hbraced⟩
  | rawText text =>
    exact List.forall_mem_append.mpr ⟨List.forall_mem_singleton.mpr (hwrite _ rfl), hbraced⟩
  | _ => exact List.forall_mem_singleton.mpr (hrefuse rfl)

/-- The index of a root that is left out takes no steps. -/
theorem forall_binary (operator index : Value)
    (hrefuse : operator.isOperator = false → q (.refuse operator .binary))
    (ha : (operator.isTag "root" && Renderer.isNoIndex index) = false → ∀ s ∈ a, q s)
    (hb : ∀ s ∈ b, q s) : ∀ s ∈ binary operator index a b, q s := by
  have hbraced := forall_braced hwrite hb
  cases operator with
  | symbol tag =>
    simp only [binary, root, bracketed]
    split_ifs with hroot hindex
    · exact List.forall_mem_append.mpr ⟨List.forall_mem_singleton.mpr (hwrite _ rfl), hbraced⟩
    · have hleft := ha (by simp [hindex])
      simp only [List.forall_mem_append, List.forall_mem_singleton]
      exact ⟨hwrite _ rfl, ⟨hwrite _ rfl, hleft, hwrite _ rfl⟩, hbraced⟩
    · have hleft := forall_braced hwrite (ha (by simp [Value.isTag, hroot]))
      simp only [List.forall_mem_append, List.forall_mem_singleton]
      exact ⟨hwrite _ rfl, hleft, hbraced⟩
  | rawText text =>
    have hleft := forall_braced hwrite (ha rfl)
    simp only [binary, List.forall_mem_append, List.forall_mem_singleton]
    exact ⟨hwrite _ rfl, hleft, hbraced⟩
  | _ => exact List.forall_mem_singleton.mpr (hrefuse rfl)

theorem forall_matrix (left right : Option Tag) (ha : ∀ s ∈ a, q s) :
    ∀ s ∈ matrix left right a, q s := by
  refine forall_delimited hwrite left right ?_
  simp only [List.forall_mem_append, List.forall_mem_singleton]
  exact ⟨hwrite _ rfl, ha, hwrite _ rfl⟩

theorem forall_joined {gap : Step} (hgap : gap.isWrite = true) {items : List Value}
    (h : ∀ item ∈ items, ∀ s ∈ of depth item, q s) : ∀ s ∈ joined depth gap items, q s := by
  induction items with
  | nil => nofun
  | cons item items ih =>
    rw [List.forall_mem_cons] at h
    cases items with
    | nil => exact h.1
    | cons next items =>
      rw [joined_cons_cons]
      simp only [List.forall_mem_append, List.forall_mem_singleton]
      exact ⟨h.1, hwrite gap hgap, ih h.2⟩

theorem forall_joinedRows {rows : List (Row Value)}
    (h : ∀ cell ∈ rows.flatMap Row.cells, ∀ s ∈ of depth cell, q s) :
    ∀ s ∈ joinedRows depth rows, q s := by
  induction rows with
  | nil => nofun
  | cons row rows ih =>
    rw [List.flatMap_cons, List.forall_mem_append] at h
    have hrow : ∀ s ∈ joined depth (.mark " & ") row.cells, q s := forall_joined hwrite rfl h.1
    cases rows with
    | nil => exact hrow
    | cons next rows =>
      rw [joinedRows_cons_cons]
      simp only [List.forall_mem_append, List.forall_mem_singleton]
      exact ⟨hrow, hwrite _ rfl, ih h.2⟩

end

/-- What holds of a value's own steps, and of the steps of its children that the walk gets to, holds
of all its steps. -/
theorem forall_of {q : Step → Prop} {depth : Nat} {v : Value}
    (hown : ∀ s : Step, s.IsOwn depth v → q s)
    (hchildren : ∀ c ∈ v.children, c.height < v.height → ∀ s ∈ of (depth + 1) c, q s) :
    ∀ s ∈ of depth v, q s := by
  have hwrite : ∀ s : Step, s.isWrite = true → q s := fun s hs => hown s (Step.isOwn_of_isWrite hs)
  have hbody : ∀ {n a}, v.height = 1 + n → (∀ s ∈ a, q s) →
      ∀ s ∈ [.enter (depth + 1)] ++ a, q s := by
    intro n a hheight ha
    have hlevel : depth + 1 ≤ depth + v.height := by omega
    exact List.forall_mem_append.mpr ⟨List.forall_mem_singleton.mpr (hown _ hlevel), ha⟩
  have hleaf : ∀ {a}, v.height = 1 → (∀ s ∈ a, q s) → ∀ s ∈ [.enter (depth + 1)] ++ a, q s :=
    fun hheight => hbody (n := 0) hheight
  cases v with
  | scalar t =>
    cases t with
    | null => nofun
    | _ => exact hleaf rfl (List.forall_mem_singleton.mpr (hown _ rfl))
  | sequence items separator =>
    refine hbody rfl (forall_joined hwrite rfl fun item hitem => ?_)
    have := Value.height_le_heightOfAll hitem
    exact hchildren item hitem (by simp only [Value.height]; omega)
  | literal text => exact hleaf rfl (forall_literal hwrite text)
  | symbol tag => exact hleaf rfl (List.forall_mem_singleton.mpr (hwrite _ rfl))
  | textRun content => exact hleaf rfl (forall_upright hwrite content)
  | parenthesized inner left right =>
    have hinner := hchildren inner (by simp [Value.children]) (by simp [Value.height])
    exact hbody rfl (forall_delimited hwrite left right hinner)
  | subSup base sub sup =>
    have hbase := hchildren base (by simp [Value.children]) (by simp only [Value.height]; omega)
    have hsub (h : sub.isNull = false) :=
      hchildren sub (by simp [Value.children, h]) (by simp only [Value.height]; omega)
    have hsup (h : sup.isNull = false) :=
      hchildren sup (by simp [Value.children, h]) (by simp only [Value.height]; omega)
    refine hbody rfl (List.forall_mem_append.mpr ⟨forall_grouped hwrite base hbase, ?_⟩)
    exact List.forall_mem_append.mpr
      ⟨forall_script hwrite "_" sub hsub, forall_script hwrite "^" sup hsup⟩
  | unary operator operand =>
    have hoperand : operand.height < (Value.unary operator operand).height := by
      simp only [Value.height]
      split_ifs <;> omega
    have hsteps := hchildren operand (by simp [Value.children]) hoperand
    refine hbody rfl (forall_unary hwrite operator (fun harc => hown _ ?_)
      (fun hrefuse => hown _ ⟨rfl, hrefuse⟩) hsteps)
    simp only [Step.IsOwn, Value.height, harc, if_true]
    omega
  | binary operator left right =>
    have hright : right.height < (Value.binary operator left right).height := by
      simp only [Value.height]
      split_ifs <;> omega
    refine hbody rfl (forall_binary hwrite operator left (fun hrefuse => hown _ ⟨rfl, hrefuse⟩)
      (fun hindex => hchildren left (by simp [Value.children]) ?_)
      (hchildren right (by simp [Value.children]) hright))
    simp only [Value.height, hindex, Bool.false_eq_true, if_false]
    omega
  | matrix rows left right =>
    refine hbody rfl
      (forall_matrix hwrite left right (forall_joinedRows hwrite fun cell hcell => ?_))
    have := Value.height_le_heightOfRows hcell
    exact hchildren cell hcell (by simp only [Value.height]; omega)
  | _ => exact hleaf rfl (List.forall_mem_singleton.mpr (hown _ rfl))

section

open List (infix_append_of_infix_left infix_append_of_infix_right)

variable {depth : Nat} {a b c : List Step}

theorem infix_braced (h : c <:+: a) : c <:+: braced a :=
  infix_append_of_infix_right (infix_append_of_infix_left h)

theorem infix_delimited (left right : Option Tag) (h : c <:+: a) :
    c <:+: delimited left right a := by
  unfold delimited
  split
  · exact h
  · have hbody : c <:+: a ++ ([.mark " \\right "] ++ [.look right.join]) :=
      infix_append_of_infix_left h
    have hspace : c <:+: [.mark " "] ++ (a ++ ([.mark " \\right "] ++ [.look right.join])) :=
      infix_append_of_infix_right hbody
    exact infix_append_of_infix_right (infix_append_of_infix_right hspace)

theorem infix_grouped (argument : Value) (h : c <:+: a) : c <:+: grouped argument a := by
  unfold grouped
  split
  · exact infix_braced h
  · exact h

theorem infix_script (mark : String) {argument : Value} (hnull : argument.isNull = false)
    (h : c <:+: a) : c <:+: script mark argument a := by
  rw [script, hnull]
  exact infix_append_of_infix_right (infix_grouped argument h)

theorem infix_unary {operator : Value} (hoperator : operator.isOperator = true) (h : c <:+: a) :
    c <:+: unary depth operator a := by
  have hbraced := infix_braced h
  cases operator with
  | symbol tag =>
    simp only [unary, applied]
    split_ifs
    · exact infix_delimited _ _ h
    · exact infix_delimited _ _ h
    · exact infix_delimited _ _ h
    · exact infix_append_of_infix_right (infix_append_of_infix_right hbraced)
    · exact infix_append_of_infix_right hbraced
  | rawText text => exact infix_append_of_infix_right hbraced
  | _ => cases hoperator

theorem infix_binary_left {operator index : Value} (hoperator : operator.isOperator = true)
    (hindex : Renderer.isNoIndex index = false) (h : c <:+: a) :
    c <:+: binary operator index a b := by
  have hbraced : c <:+: braced a ++ braced b := infix_append_of_infix_left (infix_braced h)
  cases operator with
  | symbol tag =>
    simp only [binary, root, bracketed, hindex, Bool.false_eq_true, if_false]
    split_ifs
    · have hbracketed : c <:+: [.mark "["] ++ (a ++ [.mark "]"]) :=
        infix_append_of_infix_right (infix_append_of_infix_left h)
      exact infix_append_of_infix_right (infix_append_of_infix_left hbracketed)
    · exact infix_append_of_infix_right hbraced
  | rawText text => exact infix_append_of_infix_right hbraced
  | _ => cases hoperator

theorem infix_binary_right {operator index : Value} (hoperator : operator.isOperator = true)
    (h : c <:+: b) : c <:+: binary operator index a b := by
  have hbraced := infix_braced h
  cases operator with
  | symbol tag =>
    simp only [binary, root]
    split_ifs <;> exact infix_append_of_infix_right (infix_append_of_infix_right hbraced)
  | rawText text => exact infix_append_of_infix_right (infix_append_of_infix_right hbraced)
  | _ => cases hoperator

theorem infix_matrix (left right : Option Tag) (h : c <:+: a) : c <:+: matrix left right a :=
  infix_delimited left right (infix_append_of_infix_right (infix_append_of_infix_left h))

theorem infix_joined {gap : Step} {item : Value} {items : List Value} (h : item ∈ items) :
    of depth item <:+: joined depth gap items := by
  induction items with
  | nil => cases h
  | cons first items ih =>
    cases items with
    | nil =>
      rw [List.mem_singleton.mp h]
      exact List.infix_refl _
    | cons next items =>
      rw [joined_cons_cons]
      obtain rfl | h := List.mem_cons.mp h
      · exact infix_append_of_infix_left (List.infix_refl _)
      · exact infix_append_of_infix_right (infix_append_of_infix_right (ih h))

theorem infix_joinedRows {row : Row Value} {rows : List (Row Value)} (h : row ∈ rows) :
    joined depth (.mark " & ") row.cells <:+: joinedRows depth rows := by
  induction rows with
  | nil => cases h
  | cons first rows ih =>
    cases rows with
    | nil =>
      rw [List.mem_singleton.mp h]
      exact List.infix_refl _
    | cons next rows =>
      rw [joinedRows_cons_cons]
      obtain rfl | h := List.mem_cons.mp h
      · exact infix_append_of_infix_left (List.infix_refl _)
      · exact infix_append_of_infix_right (infix_append_of_infix_right (ih h))

/-- The steps of a child are among those of the node, unless the child is an index left out. -/
theorem infix_child {v child : Value} (hoperable : v.isOperable = true)
    (hindex : Renderer.isNoIndex child = false) (hchild : child ∈ v.children) :
    of (depth + 1) child <:+: of depth v := by
  have hself : of (depth + 1) child <:+: of (depth + 1) child := List.infix_refl _
  have hoperator := ((Value.isOperable_iff v).mp hoperable).1
  cases v with
  | sequence items separator => exact infix_append_of_infix_right (infix_joined hchild)
  | parenthesized inner left right =>
    obtain rfl := List.mem_singleton.mp hchild
    exact infix_append_of_infix_right (infix_delimited left right hself)
  | subSup base sub sup =>
    obtain rfl | hscript := List.mem_cons.mp hchild
    · exact infix_append_of_infix_right (infix_append_of_infix_left (infix_grouped _ hself))
    · obtain ⟨hmem, hnull⟩ := List.mem_filter.mp hscript
      have hnull : child.isNull = false := by simpa using hnull
      have hscripts : of (depth + 1) child <:+:
          script "_" sub (of (depth + 1) sub) ++ script "^" sup (of (depth + 1) sup) := by
        obtain rfl | hsup := List.mem_cons.mp hmem
        · exact infix_append_of_infix_left (infix_script "_" hnull hself)
        · obtain rfl := List.mem_singleton.mp hsup
          exact infix_append_of_infix_right (infix_script "^" hnull hself)
      exact infix_append_of_infix_right (infix_append_of_infix_right hscripts)
  | unary operator operand =>
    obtain rfl := List.mem_singleton.mp hchild
    exact infix_append_of_infix_right (infix_unary (hoperator _ _ rfl) hself)
  | binary operator left right =>
    obtain rfl | hright := List.mem_cons.mp hchild
    · exact infix_append_of_infix_right (infix_binary_left (hoperator _ _ rfl) hindex hself)
    · obtain rfl := List.mem_singleton.mp hright
      exact infix_append_of_infix_right (infix_binary_right (hoperator _ _ rfl) hself)
  | matrix rows left right =>
    obtain ⟨row, hrow, hcell⟩ := List.mem_flatMap.mp hchild
    have hrows : of (depth + 1) child <:+: joinedRows (depth + 1) rows :=
      (infix_joined hcell).trans (infix_joinedRows hrow)
    exact infix_append_of_infix_right (infix_matrix left right hrows)
  | _ => cases hchild

end

end Steps

end FormulaTex
