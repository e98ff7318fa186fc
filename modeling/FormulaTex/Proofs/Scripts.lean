import FormulaTex.Proofs.Arguments
import FormulaTex.Proofs.Nesting
import FormulaTex.Proofs.Position
import Mathlib.Data.List.TakeWhile

/-!
# Scripts

A reader takes one argument after the mark of a script. What is written for a script is one argument
whenever it stands in braces or is upright text, as long as it nests. A literal or a symbol that
stands bare is an argument only by its own make: a number of several digits is not, and neither is
an empty literal.
-/

namespace FormulaTex

open Latex

namespace Steps

variable (r : Renderer)

theorem text_lower (k : Nat) (steps : List Step) : text r (lower k steps) = text r steps := by
  induction steps with
  | nil => rfl
  | cons s rest ih =>
    have hs : (s.lower k).text r = s.text r := by cases s <;> rfl
    rw [lower_cons, text, text, hs, ih]

/-- The text of a value is the same at any depth. -/
theorem written_of_depth (depth : Nat) (v : Value) :
    written r (of depth v) = written r (of 0 v) := by
  have hlower := of_add depth 0 v
  rw [Nat.add_zero] at hlower
  rw [hlower, written, text_lower, written]

end Steps

namespace Renderer

open Steps

variable {r : Renderer}

/-- What is written for a value that stands as an argument. -/
def argument (r : Renderer) (v : Value) : List Char :=
  written r (Steps.grouped v (Steps.of 0 v))

/-- What a script with its mark adds to the text. -/
def marked (r : Renderer) (mark : String) (script : Value) : List Char :=
  if script.isNull then [] else mark.toList ++ r.argument script

/-- Whether a mark takes all that is written for a script. -/
def Binds (r : Renderer) : Value → Prop
  | .literal text =>
    if 1 < text.length && !isNumeric text then SelfContained (escape text.toList)
    else ∃ c, text.toList = [c] ∧ c ≠ '\\' ∧ isBlank c = false
  | .symbol tag => IsArgument (pieces (r.table.resolve tag).toList)
  | v => v.isGrouped ∧ SelfContained (written r (Steps.of 0 v))

theorem argument_of_isGrouped {v : Value} (h : v.isGrouped) :
    r.argument v = '\x7b' :: (written r (Steps.of 0 v) ++ ['\x7d']) := by
  simp [argument, Steps.grouped, Steps.braced, h, Step.text]

theorem argument_literal (hlegacy : r.settings.legacyAccents = false) (text : String) :
    r.argument (.literal text) =
      if 1 < text.length && !isNumeric text then
        "\\text\x7b".toList ++ (escape text.toList ++ ['\x7d'])
      else escape text.toList := by
  simp only [argument, Steps.grouped, Value.isGrouped, Value.isStructured, Steps.of, Steps.literal,
    Bool.false_eq_true, if_false]
  split
  · simp [Steps.upright, Step.text, hlegacy]
  · simp [Step.text, hlegacy]

/-- Only the first character of a bare literal can be taken. -/
theorem isArgument_literal_iff (hlegacy : r.settings.legacyAccents = false) (text : String) :
    IsArgument (pieces (r.argument (.literal text))) ↔ r.Binds (.literal text) := by
  rw [argument_literal hlegacy, Binds]
  split
  case isTrue => exact isArgument_upright_iff
  case isFalse h =>
    apply isArgument_escape_iff
    cases htext : text.toList with
    | nil => simp
    | cons c rest =>
      by_cases hshort : text.length ≤ 1
      · rw [← htext, String.length_toList]
        exact .inl hshort
      · have hdigit : c.isDigit = true := by
          simpa [isNumeric, htext, Nat.lt_of_not_le hshort] using h
        exact .inr ⟨c, rest, rfl, ne_slash_of_isDigit hdigit, isSpecial_of_isDigit hdigit⟩

/-- All that is written for a script is one argument exactly when it binds. -/
theorem isArgument_iff_binds (hlegacy : r.settings.legacyAccents = false) (v : Value) :
    IsArgument (pieces (r.argument v)) ↔ r.Binds v := by
  by_cases hv : v.isGrouped
  · have hbinds : r.Binds v ↔ SelfContained (written r (Steps.of 0 v)) := by
      cases v <;> simp_all [Binds, Value.isGrouped, Value.isStructured]
    rw [argument_of_isGrouped hv, isArgument_braced_iff, hbinds]
  · cases v with
    | literal text => exact isArgument_literal_iff hlegacy text
    | symbol tag =>
      simp [argument, Steps.grouped, Value.isGrouped, Value.isStructured, Steps.of, Step.text,
        Binds]
    | scalar s =>
      have hwritten : r.argument (.scalar s) = [] := by
        rw [argument, Steps.grouped, if_neg hv]
        cases s <;> rfl
      simp [hwritten, Binds, hv, not_isArgument_nil]
    | list | tuple | set | map | cycle | rawText =>
      simp [argument, Steps.grouped, Value.isGrouped, Value.isStructured, Steps.of, Step.text,
        Binds, not_isArgument_nil]
    | _ => exact absurd rfl hv

/-- A script with parts, or one that is upright text, binds if all that it is made of nests. -/
theorem binds_of_contained (hlegacy : r.settings.legacyAccents = false) {v : Value}
    (hc : Contained r (Steps.of 0 v))
    (hv : v.isGrouped ∨ ∃ text, v = .literal text ∧ 1 < text.length ∧ isNumeric text = false) :
    r.Binds v := by
  have hnested := (Arranged.of 0 v).selfContained hlegacy hc
  rcases hv with hv | ⟨text, rfl, hlong, hnumeric⟩
  · cases v with
    | literal => cases hv
    | symbol => cases hv
    | _ => exact ⟨hv, hnested⟩
  · have hcontent : '\\' ∉ text.toList := by
      apply hc.contents text
      simp [Steps.of, Steps.literal, Steps.upright, Step.content?, hlong, hnumeric]
    simpa [Binds, hlong, hnumeric] using selfContained_escape hcontent

/-- A symbol that is in no table binds if its name is a word. -/
theorem binds_of_word {name : String} (hne : name ≠ "") (hname : name.toList.all Accent.isLetter)
    (hknown : r.table.isKnown (some name) = false) : r.Binds (.symbol (some name)) := by
  rw [Binds, SymbolTable.resolve_of_not_isKnown hknown]
  obtain ⟨c, rest, hrest⟩ := List.exists_cons_of_ne_nil (show name.toList ≠ [] by simpa using hne)
  rw [hrest, List.all_cons, Bool.and_eq_true] at hname
  have hslash : '\\' ∉ rest := by
    intro hmem
    have hletter := List.all_eq_true.1 hname.2 _ hmem
    cases hletter
  have hpieces : pieces (SymbolTable.fallback (some name)).toList = .pair c :: rest.map .char := by
    simp [SymbolTable.fallback, hrest, pieces_pair, pieces_of_plain hslash]
  have hdrop : (rest.map .char).dropWhile (Piece.passes Accent.isLetter) = [] := by
    simpa [List.dropWhile_eq_nil_iff, Piece.passes] using hname.2
  rw [hpieces]
  refine .control ?_
  simp [afterName, hname.1, hdrop, IsArguments.nil]

theorem written_grouped (depth : Nat) (v : Value) :
    written r (Steps.grouped v (Steps.of depth v)) = r.argument v := by
  unfold argument Steps.grouped
  split
  · simp [Steps.braced, written_of_depth]
  · exact written_of_depth r depth v

theorem written_script (mark : String) (depth : Nat) (v : Value) :
    written r (Steps.script mark v (Steps.of depth v)) = r.marked mark v := by
  unfold marked Steps.script
  split
  · rfl
  · simp [written_grouped, Step.text]

theorem text_of_run {v : Value} {p q : Pass} (h : (r.append v).run p = .ok ((), q)) :
    q.text.toList = p.text.toList ++ written r (Steps.of p.depth v) := by
  rw [run_append, Draft.resume] at h
  split at h
  · next text htext =>
    cases h
    rw [String.toList_append, eq_text_of_outcome htext, written]
  · cases h

/-- A walk over a base with scripts writes each script after its mark, and the mark takes all of it
exactly when the script binds. -/
theorem subSup_binds (r : Renderer) (base sub sup : Value) (p q : Pass)
    (hlegacy : r.settings.legacyAccents = false)
    (h : (r.append (.subSup base sub sup)).run p = .ok ((), q)) :
    q.text.toList =
        p.text.toList ++ (r.argument base ++ (r.marked "_" sub ++ r.marked "^" sup)) ∧
      ∀ script ∈ [sub, sup], IsArgument (pieces (r.argument script)) ↔ r.Binds script := by
  constructor
  · rw [text_of_run h]
    simp [Steps.of, Step.text, written_grouped, written_script]
  · intro script _
    exact isArgument_iff_binds hlegacy script

theorem subSup_binds_digit :
    IsArgument (pieces ((Renderer.ofSettings {}).argument (.literal "2"))) := by
  have h := subSup_binds (.ofSettings {}) (.literal "x") .null (.literal "2") .start
    ⟨"x^2", [], 0⟩ rfl rfl
  have hbinds : (Renderer.ofSettings {}).Binds (.literal "2") := ⟨'2', rfl, by decide, rfl⟩
  exact (h.2 (.literal "2") (by simp)).2 hbinds

/-- The tenth power of a letter is written as its first power with a zero after it. -/
theorem not_isArgument_ten :
    ((Renderer.ofSettings {}).render (.subSup (.literal "x") .null (.literal "10"))).outcome =
        .ok "x^10" ∧
      ¬ IsArgument (pieces ((Renderer.ofSettings {}).argument (.literal "10"))) := by
  refine ⟨rfl, ?_⟩
  intro h
  have hpieces : pieces ((Renderer.ofSettings {}).argument (.literal "10")) =
      [.char '1', .char '0'] := rfl
  rw [hpieces] at h
  cases (h.of_char_cons rfl).1

end Renderer

end FormulaTex
