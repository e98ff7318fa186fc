import FormulaTex.Proofs.Position
import FormulaTex.Proofs.Trees

/-!
# Parentheses without delimiters

Parentheses without any delimiter write nothing of their own. They count in two ways only: they take
a level of depth, and they make their content a structured node. The second matters for the parts of
a node with scripts, which stand in braces if they are structured, and for the index of a root,
which is left out if it is an empty sequence or an empty literal. Everywhere else the parentheses
can be dropped.

To compare two walks that differ in their levels alone, the steps are taken without those that enter
a level. These steps add nothing to a draft as long as there is room for them.
-/

namespace FormulaTex

namespace Value

mutual

/-- A value without the parentheses in it that have no delimiters. Those that stand for a part of a
node with scripts or for the index of a root are kept; `kept` tells whether the value itself stands
for one. -/
def unwrapped (kept : Bool) : Value → Value
  | .parenthesized inner left right =>
    if !kept && left.isNone && right.isNone then inner.unwrapped false
    else .parenthesized (inner.unwrapped false) left right
  | .sequence items separator => .sequence (allUnwrapped items) separator
  | .subSup base sub sup => .subSup (base.unwrapped true) (sub.unwrapped true) (sup.unwrapped true)
  | .unary operator operand => .unary operator (operand.unwrapped false)
  | .binary operator left right =>
    .binary operator (left.unwrapped (operator.isTag "root")) (right.unwrapped false)
  | .matrix rows left right => .matrix (rowsUnwrapped rows) left right
  | v => v

def allUnwrapped : List Value → List Value
  | [] => []
  | item :: items => item.unwrapped false :: allUnwrapped items

def rowsUnwrapped : List (Row Value) → List (Row Value)
  | [] => []
  | ⟨cells, separator⟩ :: rows => ⟨allUnwrapped cells, separator⟩ :: rowsUnwrapped rows

end

theorem isGrouped_unwrapped (v : Value) : (v.unwrapped true).isGrouped = v.isGrouped := by
  cases v <;> rfl

theorem isNull_unwrapped (v : Value) : (v.unwrapped true).isNull = v.isNull := by
  cases v <;> rfl

theorem isNoIndex_unwrapped (v : Value) :
    Renderer.isNoIndex (v.unwrapped true) = Renderer.isNoIndex v := by
  cases v with
  | sequence items separator => cases items <;> rfl
  | _ => rfl

mutual

theorem height_unwrapped_le (kept : Bool) : (v : Value) → (v.unwrapped kept).height ≤ v.height
  | .parenthesized inner left right => by
    have hinner := height_unwrapped_le false inner
    rw [unwrapped]
    split_ifs
    · simp only [height]
      omega
    · simp only [height]
      omega
  | .sequence items separator => by
    have hitems := heightOfAll_unwrapped_le items
    simp only [unwrapped, height]
    omega
  | .subSup base sub sup => by
    have hbase := height_unwrapped_le true base
    have hsub := height_unwrapped_le true sub
    have hsup := height_unwrapped_le true sup
    simp only [unwrapped, height]
    omega
  | .unary operator operand => by
    have hoperand := height_unwrapped_le false operand
    simp only [unwrapped, height]
    split_ifs <;> omega
  | .binary operator left right => by
    have hleft := height_unwrapped_le (operator.isTag "root") left
    have hright := height_unwrapped_le false right
    simp only [unwrapped, height]
    cases hroot : operator.isTag "root" with
    | true =>
      rw [hroot] at hleft
      rw [isNoIndex_unwrapped]
      split_ifs <;> omega
    | false =>
      rw [hroot] at hleft
      simp only [Bool.false_and, Bool.false_eq_true, if_false]
      omega
  | .matrix rows left right => by
    have hrows := heightOfRows_unwrapped_le rows
    simp only [unwrapped, height]
    omega
  | .scalar _ | .list .. | .tuple _ | .set _ | .map .. | .cycle .. | .literal _ | .symbol _
  | .rawText _ | .textRun _ => Nat.le_refl _

theorem heightOfAll_unwrapped_le :
    (items : List Value) → heightOfAll (allUnwrapped items) ≤ heightOfAll items
  | [] => Nat.le_refl _
  | item :: items => by
    have hitem := height_unwrapped_le false item
    have hitems := heightOfAll_unwrapped_le items
    simp only [allUnwrapped, heightOfAll]
    omega

theorem heightOfRows_unwrapped_le :
    (rows : List (Row Value)) → heightOfRows (rowsUnwrapped rows) ≤ heightOfRows rows
  | [] => Nat.le_refl _
  | ⟨cells, separator⟩ :: rows => by
    have hcells := heightOfAll_unwrapped_le cells
    have hrows := heightOfRows_unwrapped_le rows
    simp only [rowsUnwrapped, heightOfRows]
    omega

end

end Value

@[simp] def Step.isEnter : Step → Bool
  | enter _ => true
  | _ => false

namespace Steps

def flat (steps : List Step) : List Step :=
  steps.filter (!·.isEnter)

variable {a b : List Step}

@[simp] theorem flat_nil : flat [] = [] := rfl

@[simp] theorem flat_cons (s : Step) :
    flat (s :: a) = if s.isEnter then flat a else s :: flat a := by
  simp only [flat, List.filter_cons]
  cases s.isEnter <;> rfl

@[simp] theorem flat_append : flat (a ++ b) = flat a ++ flat b := by
  simp [flat]

@[simp] theorem flat_braced : flat (braced a) = braced (flat a) := by
  simp [braced]

@[simp] theorem flat_delimited (left right : Option Tag) :
    flat (delimited left right a) = delimited left right (flat a) := by
  unfold delimited
  split <;> simp

@[simp] theorem flat_grouped (argument : Value) :
    flat (grouped argument a) = grouped argument (flat a) := by
  unfold grouped
  split <;> simp

@[simp] theorem flat_script (mark : String) (argument : Value) :
    flat (script mark argument a) = script mark argument (flat a) := by
  unfold script
  split <;> simp

/-- The frown over an arc takes a level of its own, which depends on the depth. -/
theorem flat_unary (depth other : Nat) (operator : Value) (h : flat a = flat b) :
    flat (unary depth operator a) = flat (unary other operator b) := by
  cases operator with
  | symbol tag =>
    simp only [unary, applied]
    split_ifs <;> simp [h]
  | rawText text => simp [unary, h]
  | _ => rfl

@[simp] theorem flat_binary (operator index : Value) :
    flat (binary operator index a b) = binary operator index (flat a) (flat b) := by
  cases operator with
  | symbol tag =>
    simp only [binary, root, bracketed]
    split_ifs <;> simp
  | rawText text => simp [binary]
  | _ => simp [binary]

@[simp] theorem flat_matrix (left right : Option Tag) :
    flat (matrix left right a) = matrix left right (flat a) := by
  simp [matrix]

theorem grouped_unwrapped (v : Value) : grouped (v.unwrapped true) a = grouped v a := by
  unfold grouped
  rw [v.isGrouped_unwrapped]

theorem script_unwrapped (mark : String) (v : Value) :
    script mark (v.unwrapped true) a = script mark v a := by
  unfold script
  rw [v.isNull_unwrapped, grouped_unwrapped]

/-- Only a root looks at its index. -/
theorem binary_unwrapped (operator index : Value) :
    binary operator (index.unwrapped (operator.isTag "root")) a b =
      binary operator index a b := by
  cases operator with
  | symbol tag =>
    by_cases hroot : tag = some "root"
    · simp [binary, Value.isTag, hroot, root, bracketed, index.isNoIndex_unwrapped]
    · simp [binary, hroot]
  | _ => rfl

mutual

/-- The walks over a value with and without the parentheses differ in the levels alone. -/
theorem flat_of_unwrapped (kept : Bool) (depth other : Nat) :
    (v : Value) → flat (of depth (v.unwrapped kept)) = flat (of other v)
  | .parenthesized inner left right => by
    rw [Value.unwrapped]
    split_ifs with h
    · obtain ⟨rfl, rfl⟩ : left = none ∧ right = none := by
        cases left <;> cases right <;> simp_all
      simpa [of, delimited] using flat_of_unwrapped false depth (other + 1) inner
    · simp [of, flat_of_unwrapped false (depth + 1) (other + 1) inner]
  | .sequence items separator => by
    simpa [Value.unwrapped, of] using
      flat_joined_unwrapped (depth + 1) (other + 1) (.gap separator) items
  | .subSup base sub sup => by
    simp [Value.unwrapped, of, grouped_unwrapped, script_unwrapped,
      flat_of_unwrapped true (depth + 1) (other + 1) base,
      flat_of_unwrapped true (depth + 1) (other + 1) sub,
      flat_of_unwrapped true (depth + 1) (other + 1) sup]
  | .unary operator operand => by
    simpa [Value.unwrapped, of] using flat_unary (depth + 1) (other + 1) operator
      (flat_of_unwrapped false (depth + 1) (other + 1) operand)
  | .binary operator left right => by
    simp [Value.unwrapped, of, binary_unwrapped,
      flat_of_unwrapped (operator.isTag "root") (depth + 1) (other + 1) left,
      flat_of_unwrapped false (depth + 1) (other + 1) right]
  | .matrix rows left right => by
    simp [Value.unwrapped, of, flat_joinedRows_unwrapped (depth + 1) (other + 1) rows]
  | .scalar s => by cases s <;> rfl
  | .literal text => by simp [Value.unwrapped, of]
  | .list .. | .tuple _ | .set _ | .map .. | .cycle .. | .symbol _ | .rawText _ | .textRun _ => by
    simp [Value.unwrapped, of]

theorem flat_joined_unwrapped (depth other : Nat) (gap : Step) :
    (items : List Value) →
      flat (joined depth gap (Value.allUnwrapped items)) = flat (joined other gap items)
  | [] => rfl
  | [item] => flat_of_unwrapped false depth other item
  | item :: next :: items => by
    have hrest := flat_joined_unwrapped depth other gap (next :: items)
    simp only [Value.allUnwrapped] at hrest ⊢
    rw [joined_cons_cons, joined_cons_cons]
    simp only [flat_append, hrest, flat_of_unwrapped false depth other item]

theorem flat_joinedRows_unwrapped (depth other : Nat) :
    (rows : List (Row Value)) →
      flat (joinedRows depth (Value.rowsUnwrapped rows)) = flat (joinedRows other rows)
  | [] => rfl
  | [⟨cells, _⟩] => flat_joined_unwrapped depth other (.mark " & ") cells
  | ⟨cells, _⟩ :: next :: rows => by
    have hcells := flat_joined_unwrapped depth other (.mark " & ") cells
    have hrest := flat_joinedRows_unwrapped depth other (next :: rows)
    simp only [Value.rowsUnwrapped] at hrest ⊢
    rw [joinedRows_cons_cons, joinedRows_cons_cons]
    simp only [flat_append, hrest, hcells]

end

theorem level_le {depth level : Nat} {v : Value} (h : .enter level ∈ of depth v) :
    level ≤ depth + v.height := by
  suffices hall : ∀ s ∈ of depth v, ∀ level, s = .enter level → level ≤ depth + v.height from
    hall _ h level rfl
  clear h
  induction v using Value.children_induction generalizing depth with
  | step v ih =>
    apply forall_of
    · rintro s hs level rfl
      exact hs
    · intro c hc hlower s hs level hlevel
      have := ih c hc s hs level hlevel
      omega

variable {r : Renderer}

/-- Entering a level that is allowed adds nothing to a draft. -/
theorem draft_flat {steps : List Step}
    (h : ∀ level, .enter level ∈ steps → level ≤ r.settings.maxDepth) :
    draft r (flat steps) = draft r steps := by
  induction steps with
  | nil => rfl
  | cons s rest ih =>
    have hrest := ih fun level hlevel => h level (List.mem_cons_of_mem s hlevel)
    cases s with
    | enter level =>
      have hroom : ¬ r.settings.maxDepth < level := Nat.not_lt.mpr (h level List.mem_cons_self)
      have hempty : (Step.enter level).draft r = .empty := by
        simp [Step.draft, Step.fault?, Step.notes, Step.text, hroom, Draft.empty]
      simp [draft, hrest, hempty]
    | _ => simp [draft, hrest]

end Steps

namespace Renderer

open Steps

variable {r : Renderer} {v w : Value}

/-- Two values whose walks differ in the levels alone have the same rendering if there is room for
both. -/
theorem render_eq_of_flat (h : flat (of 0 v) = flat (of 0 w))
    (hv : v.height ≤ r.settings.maxDepth) (hw : w.height ≤ r.settings.maxDepth) :
    r.render v = r.render w := by
  have hroom : ∀ {u : Value}, u.height ≤ r.settings.maxDepth →
      ∀ level, .enter level ∈ of 0 u → level ≤ r.settings.maxDepth := by
    intro u hu level hlevel
    have := level_le hlevel
    omega
  rw [render_eq_draft, render_eq_draft, ← draft_flat (hroom hv), ← draft_flat (hroom hw), h]

theorem height_le_of_ok {latex : String} (h : (r.render v).outcome = .ok latex) :
    v.height ≤ r.settings.maxDepth := by
  have hclear := ((clear_of (Nat.zero_le _) v).mp (clear_of_ok h)).1
  rwa [Nat.zero_add] at hclear

/-- Parentheses around a value add a level and nothing else. -/
theorem flat_parenthesized (v : Value) :
    flat (of 0 (.parenthesized v none none)) = flat (of 0 v) := by
  have hself : v.unwrapped false = (Value.parenthesized v none none).unwrapped false := rfl
  rw [← flat_of_unwrapped false 0 0 v, hself, flat_of_unwrapped]

/-- A walk that lacks one level only ends at that level, if nothing else is wrong with it. -/
theorem tooDeep_of_flat {latex : String} (h : (r.render v).outcome = .ok latex)
    (hflat : flat (of 0 w) = flat (of 0 v)) (hw : r.settings.maxDepth < w.height) :
    (r.render w).outcome = .error (.tooDeep r.settings.maxDepth) := by
  cases hrender : (r.render w).outcome with
  | ok text =>
    have := height_le_of_ok hrender
    omega
  | error fault =>
    rw [render_eq_draft] at hrender
    obtain ⟨s, hs, hfault⟩ := exists_of_fault hrender
    cases henter : s.isEnter with
    | true =>
      cases s with
      | enter level =>
        simp only [Step.fault?] at hfault
        split_ifs at hfault
        cases hfault
        rfl
      | _ => cases henter
    | false =>
      have hmem : s ∈ flat (of 0 v) := by
        rw [← hflat]
        exact List.mem_filter.mpr ⟨hs, by rw [henter]; rfl⟩
      rw [clear_of_ok h s (List.mem_filter.mp hmem).1] at hfault
      cases hfault

/-- Parentheses without delimiters are transparent. A tree that has a rendering keeps it, with all
notes, when they are dropped wherever they are neither a part of a node with scripts nor the index
of a root. Around a whole tree they need one level of depth more and change nothing else. -/
theorem render_transparent (r : Renderer) (tree : Value) :
    let wrapped := Value.parenthesized tree none none
    (∀ latex, (r.render tree).outcome = .ok latex →
      (r.render (tree.unwrapped false)).outcome = .ok latex ∧
        (r.render (tree.unwrapped false)).notes = (r.render tree).notes) ∧
    (tree.height < r.settings.maxDepth →
      (r.render wrapped).outcome = (r.render tree).outcome ∧
        (r.render wrapped).notes = (r.render tree).notes) ∧
    ∀ latex, (r.render tree).outcome = .ok latex → tree.height = r.settings.maxDepth →
      (r.render wrapped).outcome = .error (.tooDeep r.settings.maxDepth) := by
  intro wrapped
  have hheight : wrapped.height = 1 + tree.height := rfl
  refine ⟨?_, ?_, ?_⟩
  · intro latex hlatex
    have hroom := height_le_of_ok hlatex
    have hsame := render_eq_of_flat (flat_of_unwrapped false 0 0 tree)
      (Nat.le_trans (tree.height_unwrapped_le false) hroom) hroom
    rw [hsame]
    exact ⟨hlatex, rfl⟩
  · intro hroom
    have hsame : r.render wrapped = r.render tree :=
      render_eq_of_flat (flat_parenthesized tree) (by omega) (by omega)
    rw [hsame]
    exact ⟨rfl, rfl⟩
  · intro latex hlatex hfull
    exact tooDeep_of_flat hlatex (flat_parenthesized tree) (by omega)

/-- Parentheses around a base and around the index of a root stay, those inside them and those in
other places go. -/
theorem render_transparent_scripts :
    let wrap := fun v => Value.parenthesized v none none
    let r := ofSettings { maxDepth := 5 }
    let tree := fun base index => Value.sequence [.subSup base .null (.literal "2"), .null,
      .binary (.symbol (some "root")) index (.symbol (some "zeta"))] none
    let wrapped := Value.sequence [
      .subSup (wrap (wrap (.literal "x"))) .null (.literal "2"), wrap .null,
      .binary (.symbol (some "root")) (wrap (.sequence [wrap .null] none))
        (wrap (wrap (.symbol (some "zeta"))))] none
    let bare := tree (wrap (.literal "x")) (wrap (.sequence [.null] none))
    let latex := "\x7bx\x7d^2  \\sqrt[]\x7b\\zeta\x7d"
    wrapped.unwrapped false = bare ∧
      (r.render wrapped).outcome = .ok latex ∧
      (r.render bare).outcome = .ok latex ∧ (r.render bare).notes = [.fallback "zeta"] ∧
      bare.height = 4 ∧ (r.render (wrap bare)).outcome = .ok latex ∧
      (r.render (wrap wrapped)).outcome = .error (.tooDeep 5) ∧
      (r.render (tree (.literal "x") (.sequence [] none))).outcome =
        .ok "x^2  \\sqrt\x7b\\zeta\x7d" := by
  intro wrap r tree wrapped bare latex
  have hwrapped : (r.render wrapped).outcome = .ok latex := rfl
  have h := render_transparent r wrapped
  have hbare := render_transparent r bare
  have hlatex := h.1 latex hwrapped
  exact ⟨rfl, hwrapped, hlatex.1, hlatex.2, rfl, (hbare.2.1 (by decide)).1.trans hlatex.1,
    h.2.2 latex hwrapped rfl, rfl⟩

end Renderer

end FormulaTex
