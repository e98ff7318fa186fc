import FormulaTex.Proofs.Steps
import Mathlib.Tactic.SplitIfs

/-!
# The walk follows its steps

From any state of a pass, the walk over a value does what its steps say: it extends the text and
the notes by those of the steps, or stops at the first fault. This is proved once for every
operation of the walk and carried through all constructions, so that rendering is from here on a
matter of lists of steps.
-/

namespace FormulaTex

/-- A pass that goes on with a draft. Its depth stays. -/
def Draft.resume (a : Draft) (p : Pass) : Except Stop (Unit × Pass) :=
  match a.outcome with
  | .ok text => .ok ((), ⟨p.text ++ text, p.notes ++ a.notes, p.depth⟩)
  | .error fault => .error ⟨fault, p.notes ++ a.notes⟩

/-- A part of a walk that does what the steps say, from every pass that is `depth` levels down. -/
def Follows (r : Renderer) (depth : Nat) (walk : Walk) (steps : List Step) : Prop :=
  ∀ p : Pass, p.depth = depth → walk.run p = (Steps.draft r steps).resume p

namespace Follows

open Renderer Walk

variable {r : Renderer} {depth : Nat} {walk first second body left right : Walk}
variable {steps s t : List Step}

theorem pure : Follows r depth (Pure.pure ()) [] := by
  intro p hp
  simp only [Draft.resume, Steps.draft_nil, Draft.empty, String.append_empty, List.append_nil]
  rfl

theorem write {step : Step} {fragment : String} (hf : step.fault? r.settings.maxDepth = none)
    (hn : step.notes r = []) (ht : step.text r = fragment) :
    Follows r depth (Walk.write fragment) [step] := by
  intro p hp
  simp [run_write, Draft.resume, Step.draft, hf, hn, ht]

theorem mark (fragment : String) : Follows r depth (Walk.write fragment) [.mark fragment] :=
  write rfl rfl rfl

theorem raw (fragment : String) : Follows r depth (Walk.write fragment) [.raw fragment] :=
  write rfl rfl rfl

theorem gap (separator : Option String) :
    Follows r depth (Walk.write (separator.getD r.settings.separator)) [.gap separator] :=
  write rfl rfl rfl

theorem escaped (r : Renderer) (depth : Nat) (text : String) :
    Follows r depth (r.escaped text) [.content text] :=
  write rfl rfl rfl

theorem skipped (name : String) :
    Follows r depth (Walk.remark (.skipped name)) [.skip name] := by
  intro p hp
  simp [run_remark, Draft.resume, Step.draft, Step.fault?, Step.notes, Step.text]

theorem refuse (operator : Value) (arity : Arity) :
    Follows r depth (Walk.stop (.ofOperator operator arity)) [.refuse operator arity] := by
  intro p hp
  simp [run_stop, Draft.resume, Step.draft, Step.fault?, Step.notes]

theorem bind (h : Follows r depth first s) (h' : Follows r depth second t) :
    Follows r depth (first >>= fun _ => second) (s ++ t) := by
  intro p hp
  rw [run_bind, h p hp, Steps.draft_append]
  obtain ⟨notes, outcome⟩ := Steps.draft r s
  cases outcome with
  | error fault => simp [Draft.resume, Draft.append_def, Draft.append, Bind.bind, Except.bind]
  | ok text =>
    have hsecond := h' ⟨p.text ++ text, p.notes ++ notes, p.depth⟩ hp
    simp only [Draft.resume, Draft.append_def, Draft.append, Bind.bind, Except.bind] at hsecond ⊢
    rw [hsecond]
    cases (Steps.draft r t).outcome <;>
      simp [Except.map, String.append_assoc, List.append_assoc]

theorem enter (h : Follows r (depth + 1) body s) :
    Follows r depth (r.enter body) ([.enter (depth + 1)] ++ s) := by
  intro p hp
  subst hp
  rw [Renderer.enter, run_nested, Steps.draft_append, Steps.draft_singleton]
  split_ifs with hdeep
  · simp [Draft.resume, Step.draft, Step.fault?, Step.notes, Draft.append_def, Draft.append, hdeep]
  · have hempty : Step.draft r (.enter (p.depth + 1)) = .empty := by
      simp [Step.draft, Step.fault?, Step.notes, Step.text, hdeep, Draft.empty]
    rw [hempty, Draft.empty_append, h { p with depth := p.depth + 1 } rfl]
    unfold Draft.resume
    cases (Steps.draft r s).outcome <;> simp [Except.map]

theorem symbol (r : Renderer) (depth : Nat) (tag : Tag) :
    Follows r depth (r.symbol tag) [.look tag] := by
  intro p hp
  cases hnote : r.note? tag with
  | none =>
    simp [Renderer.symbol, hnote, run_write, Draft.resume, Step.draft, Step.fault?, Step.notes,
      Step.text]
  | some note =>
    simp only [Renderer.symbol, hnote, run_bind, run_remark]
    simp [run_write, Draft.resume, Step.draft, Step.fault?, Step.notes, Step.text, hnote,
      Bind.bind, Except.bind]

theorem braced (h : Follows r depth body s) :
    Follows r depth (Walk.braced body) (Steps.braced s) :=
  (mark _).bind (h.bind (mark _))

theorem upright (r : Renderer) (depth : Nat) (text : String) :
    Follows r depth (r.upright text) (Steps.upright text) :=
  (mark _).bind ((escaped r depth text).bind (mark _))

theorem literal (r : Renderer) (depth : Nat) (text : String) :
    Follows r depth (r.literal text) (Steps.literal text) := by
  unfold Renderer.literal Steps.literal
  split
  · exact upright r depth text
  · exact escaped r depth text

theorem delimited (a b : Option Tag) (h : Follows r depth body s) :
    Follows r depth (r.delimited a b body) (Steps.delimited a b s) := by
  have hpair := (mark "\\left ").bind ((symbol r depth a.join).bind ((mark " ").bind (h.bind
    ((mark " \\right ").bind (symbol r depth b.join)))))
  cases a with
  | none =>
    cases b with
    | none => exact h
    | some right => exact hpair
  | some left => exact hpair

theorem grouped (argument : Value) (h : Follows r depth body s) :
    Follows r depth (Renderer.grouped argument body) (Steps.grouped argument s) := by
  unfold Renderer.grouped Steps.grouped
  split
  · exact h.braced
  · exact h

theorem script (m : String) (argument : Value) (h : Follows r depth body s) :
    Follows r depth (Renderer.script m argument body) (Steps.script m argument s) := by
  unfold Renderer.script Steps.script
  split
  · exact pure
  · exact (mark m).bind (h.grouped argument)

theorem applied (tag : Tag) (h : Follows r depth body s) :
    Follows r depth (r.applied tag body) (Steps.applied depth tag s) := by
  unfold Renderer.applied Steps.applied
  split_ifs
  · exact h.delimited _ _
  · exact h.delimited _ _
  · exact h.delimited _ _
  · exact (symbol r depth _).bind ((symbol r (depth + 1) _).enter.braced.bind h.braced)
  · exact (symbol r depth tag).bind h.braced

theorem unary (operator : Value) (h : Follows r depth body s) :
    Follows r depth (r.unary operator body) (Steps.unary depth operator s) := by
  cases operator with
  | symbol tag => exact h.applied tag
  | rawText text => exact (raw _).bind h.braced
  | _ => exact refuse _ _

theorem bracketed (index : Value) (h : Follows r depth body s) :
    Follows r depth (Renderer.bracketed index body) (Steps.bracketed index s) := by
  unfold Renderer.bracketed Steps.bracketed
  split
  · exact pure
  · exact (mark _).bind (h.bind (mark _))

theorem root (index : Value) (h : Follows r depth left s) (h' : Follows r depth right t) :
    Follows r depth (r.root index left right) (Steps.root index s t) :=
  (symbol r depth _).bind ((h.bracketed index).bind h'.braced)

theorem binary (operator index : Value) (h : Follows r depth left s)
    (h' : Follows r depth right t) :
    Follows r depth (r.binary operator index left right) (Steps.binary operator index s t) := by
  cases operator with
  | symbol tag =>
    simp only [Renderer.binary, Steps.binary]
    split_ifs
    · exact h.root index h'
    · exact (symbol r depth tag).bind (h.braced.bind h'.braced)
  | rawText text => exact (raw text).bind (h.braced.bind h'.braced)
  | _ => exact refuse _ _

theorem matrix (a b : Option Tag) (h : Follows r depth body s) :
    Follows r depth
      (r.delimited a b do
        Walk.write "\\begin\x7bmatrix\x7d "
        body
        Walk.write " \\end\x7bmatrix\x7d")
      (Steps.matrix a b s) :=
  delimited a b ((mark _).bind (h.bind (mark _)))

mutual

theorem append (r : Renderer) (depth : Nat) :
    (v : Value) → Follows r depth (r.append v) (Steps.of depth v)
  | .scalar s => by
    cases s with
    | null => exact pure
    | _ => exact (skipped _).enter
  | .list .. => (skipped _).enter
  | .tuple _ => (skipped _).enter
  | .set _ => (skipped _).enter
  | .map .. => (skipped _).enter
  | .cycle .. => (skipped _).enter
  | .rawText _ => (skipped _).enter
  | .literal text => (literal r _ text).enter
  | .symbol tag => (symbol r _ tag).enter
  | .textRun content => (upright r _ content).enter
  | .sequence items separator =>
    (joined r _ (fun _ => gap separator) items).enter
  | .parenthesized inner left right => ((append r _ inner).delimited left right).enter
  | .subSup base sub sup =>
    (((append r _ base).grouped base).bind (((append r _ sub).script "_" sub).bind
      ((append r _ sup).script "^" sup))).enter
  | .unary operator operand => ((append r _ operand).unary operator).enter
  | .binary operator left right =>
    ((append r _ left).binary operator left (append r _ right)).enter
  | .matrix rows left right => ((joinedRows r _ rows).matrix left right).enter

theorem joined (r : Renderer) (depth : Nat) {step : Step} {separator : String}
    (h : ∀ depth, Follows r depth (Walk.write separator) [step]) :
    (items : List Value) → Follows r depth (r.joined separator items)
      (Steps.joined depth step items)
  | [] => pure
  | [item] => append r depth item
  | item :: next :: items =>
    (append r depth item).bind ((h depth).bind (joined r depth h (next :: items)))

theorem joinedRows (r : Renderer) (depth : Nat) :
    (rows : List (Row Value)) → Follows r depth (r.joinedRows rows) (Steps.joinedRows depth rows)
  | [] => pure
  | [⟨cells, _⟩] => joined r depth (fun _ => mark _) cells
  | ⟨cells, _⟩ :: next :: rows =>
    (joined r depth (fun _ => mark _) cells).bind ((mark _).bind
      (joinedRows r depth (next :: rows)))

end

end Follows

namespace Renderer

theorem run_append (r : Renderer) (v : Value) (p : Pass) :
    (r.append v).run p = (Steps.draft r (Steps.of p.depth v)).resume p :=
  Follows.append r p.depth v p rfl

theorem render_eq_draft (r : Renderer) (tree : Value) :
    r.render tree = Steps.draft r (Steps.of 0 tree) := by
  have hstart : Pass.start.depth = 0 := rfl
  rw [render, Walk.draft, run_append, hstart]
  obtain ⟨notes, outcome⟩ := Steps.draft r (Steps.of 0 tree)
  cases outcome <;> simp [Draft.resume, Pass.start]

end Renderer

end FormulaTex
