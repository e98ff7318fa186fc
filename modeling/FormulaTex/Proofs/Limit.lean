import FormulaTex.Proofs.Walk

/-!
# Rendering under a higher limit of depth

A higher limit puts the end of a walk off, and does nothing else. A rendering that does not end at
the limit is the same under every higher one, and the notes of one that does are the first of those
that are made with more room.
-/

namespace FormulaTex

/-- How a draft may change when the limit of depth is raised. -/
structure Draft.IsRaised (low high : Draft) : Prop where
  notes_prefix : low.notes <+: high.notes
  eq_of_room : (∀ limit, low.outcome ≠ .error (.tooDeep limit)) → high = low

namespace Draft.IsRaised

variable {low high : Draft}

theorem refl (a : Draft) : IsRaised a a :=
  ⟨List.prefix_refl a.notes, fun _ => rfl⟩

theorem of_tooDeep (limit : Nat) (high : Draft) : IsRaised ⟨[], .error (.tooDeep limit)⟩ high :=
  ⟨List.nil_prefix, fun hroom => absurd rfl (hroom limit)⟩

/-- What comes first is not affected by the room that is left for the rest. -/
theorem append (a : Draft) (h : IsRaised low high) : IsRaised (a ++ low) (a ++ high) := by
  obtain ⟨notes, outcome⟩ := a
  cases outcome with
  | error fault => exact refl _
  | ok text =>
    refine ⟨(List.prefix_append_right_inj notes).mpr h.notes_prefix, fun hroom => ?_⟩
    have hlow : ∀ limit, low.outcome ≠ .error (.tooDeep limit) := by
      intro limit hdeep
      exact hroom limit (by simp [append_def, Draft.append, hdeep, Except.map])
    rw [h.eq_of_room hlow]

end Draft.IsRaised

variable {r : Renderer} {limit higher : Nat}

/-- A step is the same under a higher limit, unless it goes below the lower one. -/
theorem Step.draft_raised (h : limit ≤ higher) (s : Step) :
    s.draft (r.withMaxDepth limit) = s.draft (r.withMaxDepth higher) ∨
      s.draft (r.withMaxDepth limit) = ⟨[], .error (.tooDeep limit)⟩ := by
  cases s with
  | enter level =>
    by_cases hdeep : limit < level
    · right
      simp [Step.draft, Step.fault?, Step.notes, Renderer.withMaxDepth, hdeep]
    · left
      have hroom : ¬ higher < level := by omega
      simp [Step.draft, Step.fault?, Step.notes, Step.text, Renderer.withMaxDepth, hdeep, hroom]
  | _ => exact .inl rfl

theorem Steps.draft_raised (h : limit ≤ higher) (steps : List Step) :
    (Steps.draft (r.withMaxDepth limit) steps).IsRaised
      (Steps.draft (r.withMaxDepth higher) steps) := by
  induction steps with
  | nil => exact .refl .empty
  | cons s rest ih =>
    rw [Steps.draft, Steps.draft]
    obtain hsame | hdeep := Step.draft_raised (r := r) h s
    · rw [hsame]
      exact ih.append _
    · rw [hdeep]
      exact .of_tooDeep limit _

namespace Renderer

/-- Two renderings of a tree that differ in the limit of depth alone. What the lower limit lets
through, or what ends at an operator under it, is the same under the higher one, text or fault and
all notes. What ends at the lower limit has made the first of the notes that are made under the
higher one. -/
theorem render_raised (r : Renderer) {limit higher : Nat} (h : limit ≤ higher) (tree : Value) :
    let low := (r.withMaxDepth limit).render tree
    let high := (r.withMaxDepth higher).render tree
    (∀ latex, low.outcome = .ok latex → high.outcome = .ok latex ∧ high.notes = low.notes) ∧
    (∀ fault, low.outcome = .error fault → (∀ deep, fault ≠ .tooDeep deep) →
      high.outcome = .error fault ∧ high.notes = low.notes) ∧
    ∀ deep, low.outcome = .error (.tooDeep deep) → low.notes <+: high.notes := by
  intro low high
  have hraised : low.IsRaised high := by
    have hsteps := Steps.draft_raised (r := r) h (Steps.of 0 tree)
    rwa [← render_eq_draft, ← render_eq_draft] at hsteps
  refine ⟨fun latex hlow => ?_, fun fault hlow hroom => ?_, fun _ _ => hraised.notes_prefix⟩
  · have hsame : high = low := hraised.eq_of_room fun deep hdeep => by
      rw [hlow] at hdeep
      cases hdeep
    exact ⟨hsame ▸ hlow, hsame ▸ rfl⟩
  · have hsame : high = low := hraised.eq_of_room fun deep hdeep => by
      rw [hlow] at hdeep
      exact hroom deep (Except.error.inj hdeep)
    exact ⟨hsame ▸ hlow, hsame ▸ rfl⟩

/-- The second level has room for the symbol, and the third is needed for what follows it. An
operator that cannot be written is met under every limit that lets the walk get there. -/
theorem render_raised_sequence :
    let r := Renderer.ofSettings {}
    let deep := Value.sequence [.symbol (some "zeta"), .sequence [.literal "x"] none] none
    let broken := Value.sequence [.symbol (some "zeta"), .unary (.list none []) .null] none
    2 ≤ 3 ∧
      ((r.withMaxDepth 2).render deep).outcome = .error (.tooDeep 2) ∧
      ((r.withMaxDepth 2).render deep).notes <+: ((r.withMaxDepth 3).render deep).notes ∧
      ((r.withMaxDepth 7).render deep).outcome = .ok "\\zeta x" ∧
      ((r.withMaxDepth 3).render broken).outcome =
        .error (.unsupportedOperator (.list none []) .unary) ∧
      ((r.withMaxDepth 3).render broken).notes = [.fallback "zeta"] := by
  intro r deep broken
  have hdeep := render_raised r (show 2 ≤ 3 by decide) deep
  have hroom := render_raised r (show 3 ≤ 7 by decide) deep
  have hbroken := render_raised r (show 2 ≤ 3 by decide) broken
  have hsame := hbroken.2.1 (.unsupportedOperator (.list none []) .unary) rfl nofun
  exact ⟨by decide, rfl, hdeep.2.2 2 rfl, (hroom.1 "\\zeta x" rfl).1, hsame.1, hsame.2⟩

end Renderer

end FormulaTex
