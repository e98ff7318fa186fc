import FormulaTex.Proofs.Walk

/-!
# The walk does not depend on where it starts

What the walk over a value writes and notes is the same wherever it starts. What was written before
does not count, nor do the notes made before; only the levels of depth that are left do. Further
down the steps are the same with their levels moved, and a limit that is moved along cannot tell
the difference.
-/

namespace FormulaTex

namespace Steps

variable (k : Nat)

/-- The same steps in a walk that starts `k` levels further down. -/
def lower (steps : List Step) : List Step :=
  steps.map (Step.lower k)

@[simp] theorem lower_nil : lower k [] = [] := rfl

@[simp] theorem lower_cons (s : Step) (a : List Step) :
    lower k (s :: a) = s.lower k :: lower k a := rfl

@[simp] theorem lower_append (a b : List Step) : lower k (a ++ b) = lower k a ++ lower k b := by
  simp [lower]

variable (a b : List Step)

theorem lower_braced : lower k (braced a) = braced (lower k a) := by
  simp [braced, Step.lower]

theorem lower_literal (text : String) : lower k (literal text) = literal text := by
  unfold literal
  split <;> simp [upright, Step.lower]

theorem lower_delimited (left right : Option Tag) :
    lower k (delimited left right a) = delimited left right (lower k a) := by
  unfold delimited
  split <;> simp [Step.lower]

theorem lower_grouped (argument : Value) :
    lower k (grouped argument a) = grouped argument (lower k a) := by
  unfold grouped
  split <;> simp [lower_braced]

theorem lower_script (mark : String) (argument : Value) :
    lower k (script mark argument a) = script mark argument (lower k a) := by
  unfold script
  split <;> simp [lower_grouped, Step.lower]

theorem lower_unary (depth : Nat) (operator : Value) :
    lower k (unary depth operator a) = unary (k + depth) operator (lower k a) := by
  cases operator with
  | symbol tag =>
    simp only [unary, applied]
    split_ifs <;> simp [lower_delimited, lower_braced, Step.lower, Nat.add_assoc]
  | rawText text => simp [unary, lower_braced, Step.lower]
  | _ => simp [unary, Step.lower]

theorem lower_binary (operator index : Value) :
    lower k (binary operator index a b) = binary operator index (lower k a) (lower k b) := by
  cases operator with
  | symbol tag =>
    simp only [binary, root, bracketed]
    split_ifs <;> simp [lower_braced, Step.lower]
  | rawText text => simp [binary, lower_braced, Step.lower]
  | _ => simp [binary, Step.lower]

theorem lower_matrix (left right : Option Tag) :
    lower k (matrix left right a) = matrix left right (lower k a) := by
  simp [matrix, lower_delimited, Step.lower]

mutual

theorem of_add (depth : Nat) : (v : Value) → of (k + depth) v = lower k (of depth v)
  | .scalar s => by cases s <;> simp [of, Step.lower, Nat.add_assoc]
  | .list .. | .tuple _ | .set _ | .map .. | .cycle .. | .rawText _ | .symbol _ => by
    simp [of, Step.lower, Nat.add_assoc]
  | .literal text => by simp [of, lower_literal, Step.lower, Nat.add_assoc]
  | .textRun content => by simp [of, upright, Step.lower, Nat.add_assoc]
  | .sequence items separator => by
    have hgap : (Step.gap separator).lower k = .gap separator := rfl
    simp [of, Nat.add_assoc, joined_add (depth + 1) hgap items, Step.lower]
  | .parenthesized inner left right => by
    simp [of, Nat.add_assoc, of_add (depth + 1) inner, lower_delimited, Step.lower]
  | .subSup base sub sup => by
    simp [of, Nat.add_assoc, of_add (depth + 1) base, of_add (depth + 1) sub,
      of_add (depth + 1) sup, lower_grouped, lower_script, Step.lower]
  | .unary operator operand => by
    simp [of, Nat.add_assoc, of_add (depth + 1) operand, lower_unary, Step.lower]
  | .binary operator left right => by
    simp [of, Nat.add_assoc, of_add (depth + 1) left, of_add (depth + 1) right, lower_binary,
      Step.lower]
  | .matrix rows left right => by
    simp [of, Nat.add_assoc, joinedRows_add (depth + 1) rows, lower_matrix, Step.lower]

theorem joined_add (depth : Nat) {gap : Step} (hgap : gap.lower k = gap) :
    (items : List Value) → joined (k + depth) gap items = lower k (joined depth gap items)
  | [] => rfl
  | [item] => of_add depth item
  | item :: next :: items => by
    rw [joined_cons_cons, joined_cons_cons, of_add depth item,
      joined_add depth hgap (next :: items)]
    simp [hgap]

theorem joinedRows_add (depth : Nat) :
    (rows : List (Row Value)) → joinedRows (k + depth) rows = lower k (joinedRows depth rows)
  | [] => rfl
  | [⟨cells, _⟩] => joined_add depth rfl cells
  | ⟨cells, _⟩ :: next :: rows => by
    rw [joinedRows_cons_cons, joinedRows_cons_cons, joined_add depth rfl cells,
      joinedRows_add depth (next :: rows)]
    simp [Step.lower]

end

end Steps

namespace Draft

theorem withLimit_append (limit : Nat) (a b : Draft) :
    (a ++ b).withLimit limit = a.withLimit limit ++ b.withLimit limit := by
  obtain ⟨notes, outcome⟩ := a
  cases outcome with
  | error fault => simp [withLimit, append_def, append, Except.mapError]
  | ok text =>
    simp only [withLimit, append_def, append, Except.mapError]
    cases b.outcome <;> rfl

end Draft

variable {r : Renderer} {k : Nat}

theorem Step.draft_lower (hk : k ≤ r.settings.maxDepth) (s : Step) :
    (s.lower k).draft r =
      (s.draft (r.withMaxDepth (r.settings.maxDepth - k))).withLimit r.settings.maxDepth := by
  cases s with
  | enter level =>
    have hlevel : r.settings.maxDepth < k + level ↔ r.settings.maxDepth - k < level := by omega
    by_cases hdeep : r.settings.maxDepth - k < level <;>
      simp [Step.draft, Step.lower, Step.fault?, Step.notes, Step.text, Renderer.withMaxDepth,
        Draft.withLimit, Except.mapError, RenderFault.withLimit, hlevel, hdeep]
  | refuse operator arity =>
    have hfault : (RenderFault.ofOperator operator arity).withLimit r.settings.maxDepth =
        .ofOperator operator arity := by
      unfold RenderFault.ofOperator
      split <;> rfl
    simp [Step.draft, Step.lower, Step.fault?, Step.notes, Draft.withLimit, Except.mapError, hfault]
  | _ => rfl

theorem Steps.draft_lower (hk : k ≤ r.settings.maxDepth) (steps : List Step) :
    Steps.draft r (Steps.lower k steps) =
      (Steps.draft (r.withMaxDepth (r.settings.maxDepth - k)) steps).withLimit
        r.settings.maxDepth := by
  induction steps with
  | nil => rfl
  | cons s rest ih =>
    rw [lower_cons, Steps.draft, Steps.draft, ih, Step.draft_lower hk, Draft.withLimit_append]

namespace Renderer

theorem draft_of_depth (hk : k ≤ r.settings.maxDepth) (v : Value) :
    Steps.draft r (Steps.of k v) =
      ((r.withMaxDepth (r.settings.maxDepth - k)).render v).withLimit r.settings.maxDepth := by
  have hlower := Steps.of_add k 0 v
  rw [Nat.add_zero] at hlower
  rw [hlower, Steps.draft_lower hk, render_eq_draft]

/-- The walk over a value from any state of a pass, compared with the walk over it from the start
under the limit of depth that is left. One ends well exactly when the other does, and then the text
and the notes of the latter follow those that were there, and the depth is what it was. If they
stop, then at the same fault, but for the limit that it names, and the notes made before it follow
those that were there. -/
theorem append_anywhere (r : Renderer) (v : Value) (p : Pass)
    (h : p.depth ≤ r.settings.maxDepth) :
    let fresh := ((r.withMaxDepth (r.settings.maxDepth - p.depth)).append v).run .start
    ((∃ q, (r.append v).run p = .ok ((), q)) ↔ ∃ q, fresh = .ok ((), q)) ∧
    (∀ q, fresh = .ok ((), q) →
      (r.append v).run p = .ok ((), ⟨p.text ++ q.text, p.notes ++ q.notes, p.depth⟩)) ∧
    ∀ stop, fresh = .error stop →
      (r.append v).run p =
        .error ⟨stop.fault.withLimit r.settings.maxDepth, p.notes ++ stop.notes⟩ := by
  intro fresh
  have hfresh : fresh =
      ((r.withMaxDepth (r.settings.maxDepth - p.depth)).render v).resume .start := by
    rw [render_eq_draft]
    exact run_append _ v .start
  rw [run_append, draft_of_depth h, hfresh]
  obtain ⟨notes, outcome⟩ := (r.withMaxDepth (r.settings.maxDepth - p.depth)).render v
  cases outcome with
  | ok text => simp [Draft.resume, Draft.withLimit, Except.mapError, Pass.start]
  | error fault => simp [Draft.resume, Draft.withLimit, Except.mapError, Pass.start]

theorem append_anywhere_script :
    let r := Renderer.ofSettings {}
    let tree := Value.subSup (.symbol (some "zeta")) .null (.literal "2")
    (r.append tree).run ⟨"1 + ", [.skipped "int"], 98⟩ =
        .ok ((), ⟨"1 + \\zeta^2", [.skipped "int", .fallback "zeta"], 98⟩) ∧
      (r.append tree).run ⟨"1 + ", [.skipped "int"], 99⟩ =
        .error ⟨.tooDeep 100, [.skipped "int"]⟩ := by
  intro r tree
  have hleft := append_anywhere r tree ⟨"1 + ", [.skipped "int"], 98⟩ (by decide)
  have hfull := append_anywhere r tree ⟨"1 + ", [.skipped "int"], 99⟩ (by decide)
  exact ⟨hleft.2.1 ⟨"\\zeta^2", [.fallback "zeta"], 0⟩ rfl, hfull.2.2 ⟨.tooDeep 1, []⟩ rfl⟩

end Renderer

end FormulaTex
