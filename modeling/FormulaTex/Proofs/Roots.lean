import FormulaTex.Proofs.Layers
import FormulaTex.Proofs.Tables

/-!
# The index of a root

The index of a root stands in square brackets, with no braces around it. A reader takes it up to
the first closing bracket that is outside of all braces, so an index that shows such a bracket is
cut short. What shows one is told by the tree: a symbol or a delimiter whose fragment does, a raw
operator or a separator that does, or another root with an index of its own, unless it stands in
braces.
-/

namespace FormulaTex

namespace Latex

/-- A closing bracket of an optional argument, outside of all braces. -/
def optionEnd : Int × Piece :=
  (0, .char ']')

/-- What a reader takes for the optional argument at the beginning of a text. -/
def readOption (text : List Char) : Option (List Char) :=
  match pieces text with
  | .char '[' :: rest =>
    let layered := layers braceReader 0 rest
    if optionEnd ∈ layered then
      some (spelled ((layered.takeWhile (· ≠ optionEnd)).map Prod.snd))
    else none
  | _ => none

/-- Whether a text shows a bracket that ends an optional argument. -/
def Shows (text : List Char) : Prop :=
  optionEnd ∈ layers braceReader 0 (pieces text)

instance (text : List Char) : Decidable (Shows text) :=
  inferInstanceAs (Decidable (_ ∈ _))

variable {a b text rest : List Char}

theorem layers_of_selfContained (h : SelfContained a) (n : Int) (b : List Piece) :
    layers braceReader n (pieces a ++ b) =
      layers braceReader n (pieces a) ++ layers braceReader n b := by
  rw [layers_brace_append, rise_eq_zero h.2, Int.add_zero]

theorem not_shows_nil : ¬ Shows [] := by
  decide

theorem shows_append (ha : SelfContained a) : Shows (a ++ b) ↔ Shows a ∨ Shows b := by
  rw [Shows, pieces_append ha.1, layers_of_selfContained ha, List.mem_append]
  rfl

/-- Nothing shows that stands in braces. -/
theorem not_shows_braced (h : SelfContained a) : ¬ Shows ('\x7b' :: (a ++ ['\x7d'])) := by
  have hlayers : layers braceReader 0 (pieces ('\x7b' :: (a ++ ['\x7d']))) =
      (0, .char '\x7b') :: (layers braceReader 1 (pieces a) ++ [(0, .char '\x7d')]) := by
    rw [pieces_char (by decide), pieces_append h.1]
    exact congrArg _ (layers_of_selfContained h 1 _)
  have hinside : optionEnd ∉ layers braceReader 1 (pieces a) := by
    intro hmem
    have := le_of_close h.2 _ (mem_layers_iff.mp hmem)
    exact absurd this (by decide)
  rw [Shows, hlayers]
  simpa [optionEnd] using hinside

/-- A text is read up to where the bracket first stands. -/
theorem readOption_of_layers {first more : List (Int × Piece)}
    (htext : layers braceReader 0 (pieces text) = first ++ optionEnd :: more)
    (hfirst : optionEnd ∉ first) :
    readOption ('[' :: text) = some (spelled (first.map Prod.snd)) := by
  have hbefore : ∀ x ∈ first, decide (x ≠ optionEnd) = true := fun x hx =>
    decide_eq_true (ne_of_mem_of_not_mem hx hfirst)
  have hcut : (first ++ optionEnd :: more).takeWhile (· ≠ optionEnd) = first := by
    rw [List.takeWhile_append_of_pos hbefore]
    simp
  have hpieces : pieces ('[' :: text) = .char '[' :: pieces text := pieces_char (by decide) text
  simp only [readOption, hpieces, htext]
  rw [if_pos (by simp), hcut]

theorem layers_option (h : SelfContained text) (rest : List Char) :
    layers braceReader 0 (pieces (text ++ ']' :: rest)) =
      layers braceReader 0 (pieces text) ++ optionEnd :: layers braceReader 0 (pieces rest) := by
  rw [pieces_append h.1, layers_of_selfContained h, pieces_char (by decide)]
  rfl

/-- A text that shows no bracket of its own is read whole. -/
theorem readOption_of_not_shows (h : SelfContained text) (hshows : ¬ Shows text) :
    readOption ('[' :: (text ++ ']' :: rest)) = some text := by
  rw [readOption_of_layers (layers_option h rest) hshows, map_snd_layers, spelled_pieces]

theorem readOption_of_shows (h : SelfContained text) (hshows : Shows text) :
    ∃ first more, text = first ++ ']' :: more ∧
      readOption ('[' :: (text ++ ']' :: rest)) = some first := by
  obtain ⟨first, more, hlayers, hfirst⟩ := List.eq_append_cons_of_mem hshows
  refine ⟨spelled (first.map Prod.snd), spelled (more.map Prod.snd), ?_, ?_⟩
  · rw [← spelled_pieces text, ← map_snd_layers braceReader 0 (pieces text), hlayers]
    simp [spelled, Piece.spelled, optionEnd]
  · have htext := layers_option h rest
    rw [hlayers, List.append_assoc, List.cons_append] at htext
    exact readOption_of_layers htext hfirst

end Latex

open Latex Steps

namespace Renderer

def TagExposes (r : Renderer) (tag : Tag) : Prop :=
  Shows (r.table.resolve tag).toList

instance (r : Renderer) (tag : Tag) : Decidable (r.TagExposes tag) :=
  inferInstanceAs (Decidable (Shows _))

def FenceExposes (r : Renderer) (left right : Option Tag) : Prop :=
  ¬ (left = none ∧ right = none) ∧ (r.TagExposes left.join ∨ r.TagExposes right.join)

/-- Only where a symbol stands for a pair of delimiters, its operand is outside of braces. -/
def AppliedExposes (r : Renderer) (tag : Tag) (operand : Prop) : Prop :=
  if tag = some "norm" then r.FenceExposes (some (some "lvert")) (some (some "rvert")) ∨ operand
  else if tag = some "floor" then
    r.FenceExposes (some (some "lfloor")) (some (some "rfloor")) ∨ operand
  else if tag = some "ceil" then
    r.FenceExposes (some (some "lceiling")) (some (some "rceiling")) ∨ operand
  else if tag = some "overarc" then r.TagExposes (some "overset")
  else r.TagExposes tag

mutual

/-- Whether a tree shows the end of an optional argument. -/
def Exposes (r : Renderer) : Value → Prop
  | .symbol tag => r.TagExposes tag
  | .sequence items separator =>
    (1 < items.length ∧ Shows (separator.getD r.settings.separator).toList) ∨ AnyExposes r items
  | .parenthesized inner left right => r.FenceExposes left right ∨ Exposes r inner
  | .subSup base sub sup =>
    (base.isGrouped = false ∧ Exposes r base) ∨ (sub.isGrouped = false ∧ Exposes r sub) ∨
      (sup.isGrouped = false ∧ Exposes r sup)
  | .unary (.symbol tag) operand => r.AppliedExposes tag (Exposes r operand)
  | .unary (.rawText text) _ => Shows ("\\" ++ text).toList
  | .binary (.symbol tag) left _ =>
    if tag = some "root" then r.TagExposes (some "sqrt") ∨ isNoIndex left = false
    else r.TagExposes tag
  | .binary (.rawText text) _ _ => Shows text.toList
  | .matrix rows left right => r.FenceExposes left right ∨ AnyRowExposes r rows
  | _ => False

def AnyExposes (r : Renderer) : List Value → Prop
  | [] => False
  | item :: items => Exposes r item ∨ AnyExposes r items

def AnyRowExposes (r : Renderer) : List (Row Value) → Prop
  | [] => False
  | ⟨cells, _⟩ :: rows => AnyExposes r cells ∨ AnyRowExposes r rows

end

end Renderer

namespace Steps

variable {r : Renderer} {a b : List Step}

theorem not_shows_braced (h : SelfContained (written r a)) : ¬ Shows (written r (braced a)) := by
  have hwritten : written r (braced a) = '\x7b' :: (written r a ++ ['\x7d']) := by
    simp [braced, Step.text]
  rw [hwritten]
  exact Latex.not_shows_braced h

theorem shows_step_append {s : Step} (hs : SelfContained (s.text r).toList) :
    Shows (written r ([s] ++ a)) ↔ Shows (s.text r).toList ∨ Shows (written r a) := by
  rw [written_append, written_singleton, shows_append hs]

theorem shows_mark_append {mark : String} (hmark : SelfContained mark.toList)
    (hshows : ¬ Shows mark.toList) :
    Shows (written r ([.mark mark] ++ a)) ↔ Shows (written r a) := by
  have hstep : Shows (written r ([.mark mark] ++ a)) ↔ Shows mark.toList ∨ Shows (written r a) :=
    shows_step_append hmark
  exact hstep.trans (or_iff_right hshows)

theorem shows_before_braced {s : Step} (hs : SelfContained (s.text r).toList)
    (ha : SelfContained (written r a)) :
    Shows (written r ([s] ++ braced a)) ↔ Shows (s.text r).toList :=
  (shows_step_append hs).trans (or_iff_left (not_shows_braced ha))

theorem selfContained_braced (h : SelfContained (written r a)) :
    SelfContained (written r (braced a)) := by
  have hgroup := Enclosure.group.selfContained h
  simpa [braced, Step.text, Enclosure.opener, Enclosure.closer] using hgroup

theorem shows_before_both {s : Step} (hs : SelfContained (s.text r).toList)
    (ha : SelfContained (written r a)) (hb : SelfContained (written r b)) :
    Shows (written r ([s] ++ (braced a ++ braced b))) ↔ Shows (s.text r).toList := by
  rw [shows_step_append hs, written_append, shows_append (selfContained_braced ha)]
  exact or_iff_left (not_or.mpr ⟨not_shows_braced ha, not_shows_braced hb⟩)

theorem selfContained_look {tag : Tag} (h : Contained r [.look tag]) :
    SelfContained (Step.text r (.look tag)).toList :=
  h.fragments (r.table.resolve tag) (by simp [Step.fragment?])

theorem selfContained_raw {fragment : String} (h : Contained r [.raw fragment]) :
    SelfContained (Step.text r (.raw fragment)).toList :=
  h.fragments fragment (by simp [Step.fragment?])

theorem not_shows_upright {text : String} (h : SelfContained (written r [.content text])) :
    ¬ Shows (written r (upright text)) := by
  have hwritten : written r (upright text) =
      "\\text".toList ++ ('\x7b' :: (written r [.content text] ++ ['\x7d'])) := by
    simp [upright, Step.text]
  rw [hwritten, shows_append (by decide), not_or]
  exact ⟨by decide, Latex.not_shows_braced h⟩

theorem shows_delimited {left right : Option Tag} (ha : SelfContained (written r a))
    (hc : Contained r (delimited left right a)) :
    Shows (written r (delimited left right a)) ↔
      r.FenceExposes left right ∨ Shows (written r a) := by
  revert hc
  unfold delimited
  split
  · simp [Renderer.FenceExposes]
  · rename_i hpair
    intro hc
    simp only [contained_append] at hc
    have hfence : r.FenceExposes left right ↔
        r.TagExposes left.join ∨ r.TagExposes right.join :=
      and_iff_right fun ⟨hleft, hright⟩ => hpair hleft hright
    rw [shows_mark_append (by decide) (by decide), shows_step_append (selfContained_look hc.2.1),
      shows_mark_append (by decide) (by decide), written_append, shows_append ha,
      shows_mark_append (by decide) (by decide), written_singleton, hfence]
    exact or_assoc.symm.trans or_right_comm

theorem shows_grouped {argument : Value} (ha : SelfContained (written r a)) :
    Shows (written r (grouped argument a)) ↔
      argument.isGrouped = false ∧ Shows (written r a) := by
  unfold grouped
  split
  · rename_i hstructured
    simp [hstructured, not_shows_braced ha]
  · rename_i hstructured
    simp [hstructured]

theorem shows_script {mark : String} {argument : Value} (hmark : SelfContained mark.toList)
    (hshows : ¬ Shows mark.toList) (ha : SelfContained (written r a))
    (hnull : argument.isNull = true → written r a = []) :
    Shows (written r (script mark argument a)) ↔
      argument.isGrouped = false ∧ Shows (written r a) := by
  unfold script
  split
  · rename_i h
    have hnone : ¬ Shows [] := by decide
    simp [hnull h, hnone]
  · rw [shows_mark_append hmark hshows, shows_grouped ha]

theorem shows_applied {depth : Nat} {tag : Tag} (ha : SelfContained (written r a))
    (hc : Contained r (applied depth tag a)) :
    Shows (written r (applied depth tag a)) ↔ r.AppliedExposes tag (Shows (written r a)) := by
  revert hc
  unfold applied Renderer.AppliedExposes
  split_ifs
  · exact shows_delimited ha
  · exact shows_delimited ha
  · exact shows_delimited ha
  · intro hc
    obtain ⟨hoverset, hbraced⟩ := contained_append.mp hc
    have hfrown : Contained r [.look (some "frown")] := by
      simp only [braced, contained_append] at hbraced
      exact hbraced.1.2.1.2
    refine shows_before_both (selfContained_look hoverset) ?_ ha
    simpa [Step.text] using selfContained_look hfrown
  · intro hc
    exact shows_before_braced (selfContained_look (contained_append.mp hc).1) ha

theorem shows_bracketed {index : Value} (hindex : Renderer.isNoIndex index = false)
    (ha : SelfContained (written r a)) : Shows (written r (bracketed index a ++ b)) := by
  have hwritten : written r (bracketed index a ++ b) =
      "[".toList ++ (written r a ++ ("]".toList ++ written r b)) := by
    simp [bracketed, hindex, Step.text]
  rw [hwritten, shows_append (by decide), shows_append ha, shows_append (by decide)]
  exact .inr (.inr (.inl (by decide)))

section

variable (hlegacy : r.settings.legacyAccents = false)
include hlegacy

theorem selfContained_of {depth : Nat} {v : Value} (hc : Contained r (of depth v)) :
    SelfContained (written r (of depth v)) :=
  (Arranged.of depth v).selfContained hlegacy hc

theorem not_shows_content {text : String} (hc : Contained r [.content text]) :
    ¬ Shows (written r [.content text]) := by
  have htext : '\\' ∉ text.toList := hc.contents text (by simp [Step.content?])
  have hwritten : written r [.content text] = escape text.toList := by
    simp [Step.text, hlegacy]
  rw [hwritten]
  intro hshows
  have hmem := mem_of_mem_layers hshows
  rw [pieces_escape htext, List.mem_map] at hmem
  obtain ⟨c, -, hc⟩ := hmem
  unfold escapedPiece at hc
  split at hc
  · cases hc
  · rename_i hspecial
    cases hc
    exact hspecial rfl

theorem not_shows_literal {text : String} (hc : Contained r (literal text)) :
    ¬ Shows (written r (literal text)) := by
  revert hc
  unfold literal
  split
  · intro hc
    simp only [upright, contained_append] at hc
    have harranged : Arranged false [.content text] := .content text
    exact not_shows_upright (harranged.selfContained hlegacy hc.2.1)
  · exact not_shows_content hlegacy

omit hlegacy in
theorem written_enter (level : Nat) : written r ([.enter level] ++ a) = written r a := by
  simp [Step.text]

theorem shows_unary {depth : Nat} {operator operand : Value}
    (hc : Contained r (unary (depth + 1) operator (of (depth + 1) operand)))
    (hoperand : Contained r (of (depth + 1) operand) →
      (Shows (written r (of (depth + 1) operand)) ↔ r.Exposes operand)) :
    Shows (written r (unary (depth + 1) operator (of (depth + 1) operand))) ↔
      r.Exposes (.unary operator operand) := by
  cases operator with
  | symbol tag =>
    have hpart : Contained r (of (depth + 1) operand) :=
      hc.of_part (infix_unary rfl (List.infix_refl _))
    rw [unary, shows_applied (selfContained_of hlegacy hpart) hc, hoperand hpart,
      Renderer.Exposes]
  | rawText text =>
    have hpart : Contained r (of (depth + 1) operand) :=
      hc.of_part (infix_unary rfl (List.infix_refl _))
    exact shows_before_braced (selfContained_raw (contained_append.mp hc).1)
      (selfContained_of hlegacy hpart)
  | _ => exact iff_of_false (by simpa [unary, Step.text] using not_shows_nil) id

theorem shows_root {depth : Nat} {index radicand : Value}
    (hc : Contained r (root index (of depth index) (of depth radicand))) :
    Shows (written r (root index (of depth index) (of depth radicand))) ↔
      r.TagExposes (some "sqrt") ∨ Renderer.isNoIndex index = false := by
  obtain ⟨hsqrt, hrest⟩ := contained_append.mp hc
  obtain ⟨hbracketed, hbraced⟩ := contained_append.mp hrest
  rw [root, shows_step_append (selfContained_look hsqrt)]
  refine or_congr_right ?_
  cases hindex : Renderer.isNoIndex index with
  | true =>
    have hradicand := selfContained_of hlegacy (hbraced.of_part (infix_braced (List.infix_refl _)))
    simp [bracketed, hindex, not_shows_braced hradicand]
  | false =>
    have hpart : Contained r (of depth index) := by
      simp only [bracketed, hindex, Bool.false_eq_true, if_false, contained_append] at hbracketed
      exact hbracketed.2.1
    exact iff_of_true (shows_bracketed hindex (selfContained_of hlegacy hpart)) rfl

theorem shows_binary {depth : Nat} {operator left right : Value}
    (hc : Contained r (binary operator left (of depth left) (of depth right))) :
    Shows (written r (binary operator left (of depth left) (of depth right))) ↔
      r.Exposes (.binary operator left right) := by
  have hboth : ∀ {s : Step}, SelfContained (s.text r).toList →
      Contained r (braced (of depth left) ++ braced (of depth right)) →
        (Shows (written r ([s] ++ (braced (of depth left) ++ braced (of depth right)))) ↔
          Shows (s.text r).toList) := by
    intro s hs h
    obtain ⟨hleft, hright⟩ := contained_append.mp h
    exact shows_before_both hs
      (selfContained_of hlegacy (hleft.of_part (infix_braced (List.infix_refl _))))
      (selfContained_of hlegacy (hright.of_part (infix_braced (List.infix_refl _))))
  cases operator with
  | symbol tag =>
    revert hc
    simp only [binary, Renderer.Exposes]
    split_ifs
    · exact shows_root hlegacy
    · intro hc
      obtain ⟨hlook, hoperands⟩ := contained_append.mp hc
      exact hboth (selfContained_look hlook) hoperands
  | rawText text =>
    obtain ⟨hraw, hoperands⟩ := contained_append.mp hc
    exact hboth (selfContained_raw hraw) hoperands
  | _ => exact iff_of_false (by simpa [binary, Step.text] using not_shows_nil) id

omit hlegacy in
theorem contained_of_script {depth : Nat} {mark : String} {v : Value}
    (hc : Contained r (script mark v (of depth v))) : Contained r (of depth v) := by
  cases hnull : v.isNull with
  | true =>
    rw [Value.eq_null_of_isNull hnull]
    exact ⟨nofun, nofun, nofun⟩
  | false => exact hc.of_part (infix_script mark hnull (List.infix_refl _))

/-- Scripts after a base. Braces hide all but a lone symbol. -/
theorem shows_subSup {depth : Nat} {base sub sup : Value}
    (hc : Contained r (grouped base (of depth base) ++
      (script "_" sub (of depth sub) ++ script "^" sup (of depth sup)))) :
    Shows (written r (grouped base (of depth base) ++
        (script "_" sub (of depth sub) ++ script "^" sup (of depth sup)))) ↔
      (base.isGrouped = false ∧ Shows (written r (of depth base))) ∨
        (sub.isGrouped = false ∧ Shows (written r (of depth sub))) ∨
          (sup.isGrouped = false ∧ Shows (written r (of depth sup))) := by
  simp only [contained_append] at hc
  have hbase := hc.1.of_part (infix_grouped base (List.infix_refl _))
  have hsub := contained_of_script hc.2.1
  have hsup := contained_of_script hc.2.2
  have hnull : ∀ v : Value, v.isNull = true → written r (of depth v) = [] := by
    intro v hv
    rw [Value.eq_null_of_isNull hv]
    rfl
  have hfront := (Arranged.grouped base (.of depth base)).selfContained hlegacy hc.1
  have hmiddle : SelfContained (written r (script "_" sub (of depth sub))) :=
    (Arranged.script_after (by simp [joints]) (by simp [cellMarks]) sub .nil
      (.of depth sub)).selfContained hlegacy hc.2.1
  rw [written_append, written_append, shows_append hfront, shows_append hmiddle,
    shows_grouped (selfContained_of hlegacy hbase),
    shows_script (by decide) (by decide) (selfContained_of hlegacy hsub) (hnull sub),
    shows_script (by decide) (by decide) (selfContained_of hlegacy hsup) (hnull sup)]

omit hlegacy in
theorem shows_matrix {left right : Option Tag} {rows : List Step}
    (hrows : SelfContained (written r rows)) (hc : Contained r (matrix left right rows)) :
    Shows (written r (matrix left right rows)) ↔
      r.FenceExposes left right ∨ Shows (written r rows) := by
  have hwritten : written r ([.mark "\\begin\x7bmatrix\x7d "] ++
      (rows ++ [.mark " \\end\x7bmatrix\x7d"])) = Enclosure.matrix.opener.toList ++
        (written r rows ++ Enclosure.matrix.closer.toList) := by
    simp [Step.text, Enclosure.opener, Enclosure.closer]
  have hbody := Enclosure.matrix.selfContained hrows
  rw [← hwritten] at hbody
  rw [matrix] at hc ⊢
  have hend : ¬ Shows " \\end\x7bmatrix\x7d".toList := by decide
  rw [shows_delimited hbody hc, shows_mark_append (by decide) (by decide), written_append,
    shows_append hrows, written_singleton]
  exact or_congr_right (or_iff_left hend)

omit hlegacy in
theorem cellMark_hidden :
    SelfContained (Step.text r (.mark " & ")).toList ∧
      ¬ Shows (Step.text r (.mark " & ")).toList := by
  have hmark : SelfContained " & ".toList ∧ ¬ Shows " & ".toList := by decide
  exact hmark

mutual

/-- Whether the text of a tree shows the end of an optional argument is told by the tree. -/
theorem shows_of {depth : Nat} :
    (v : Value) → Contained r (of depth v) → (Shows (written r (of depth v)) ↔ r.Exposes v)
  | .scalar s, _ => by
    cases s <;> exact iff_of_false (by simpa [of, Step.text] using not_shows_nil) id
  | .list .., _ | .tuple _, _ | .set _, _ | .map .., _ | .cycle .., _ | .rawText _, _ =>
    iff_of_false (by simpa [of, Step.text] using not_shows_nil) id
  | .literal text, hc => by
    rw [of, written_enter]
    exact iff_of_false (not_shows_literal hlegacy (contained_append.mp hc).2) id
  | .symbol tag, _ => by
    rw [of, written_enter, written_singleton, Renderer.Exposes]
    rfl
  | .textRun content, hc => by
    have hcontent : Contained r [.content content] := by
      simp only [of, upright, contained_append] at hc
      exact hc.2.2.1
    have harranged : Arranged false [.content content] := .content content
    rw [of, written_enter]
    exact iff_of_false (not_shows_upright (harranged.selfContained hlegacy hcontent)) id
  | .sequence items separator, hc => by
    rw [of, written_enter, Renderer.Exposes]
    refine shows_joined (fun hgap => ?_) items (contained_append.mp hc).2
    exact hgap.separators (separator.getD r.settings.separator) (by simp [Step.separator?])
  | .parenthesized inner left right, hc => by
    have hbody := (contained_append.mp hc).2
    have hinner := hbody.of_part (infix_delimited left right (List.infix_refl _))
    rw [of, written_enter, Renderer.Exposes,
      shows_delimited (selfContained_of hlegacy hinner) hbody, shows_of inner hinner]
  | .subSup base sub sup, hc => by
    have hparts := (contained_append.mp hc).2
    have heach := hparts
    simp only [contained_append] at heach
    rw [of, written_enter, Renderer.Exposes, shows_subSup hlegacy hparts,
      shows_of base (heach.1.of_part (infix_grouped base (List.infix_refl _))),
      shows_of sub (contained_of_script heach.2.1), shows_of sup (contained_of_script heach.2.2)]
  | .unary operator operand, hc => by
    rw [of, written_enter]
    exact shows_unary hlegacy (contained_append.mp hc).2 (shows_of operand)
  | .binary operator left right, hc => by
    rw [of, written_enter]
    exact shows_binary hlegacy (contained_append.mp hc).2
  | .matrix rows left right, hc => by
    have hbody := (contained_append.mp hc).2
    have hrows := hbody.of_part (infix_matrix left right (List.infix_refl _))
    have hnested := (Arranged.joinedRows (depth + 1) rows).selfContained hlegacy hrows
    rw [of, written_enter, Renderer.Exposes, shows_matrix hnested hbody,
      shows_joinedRows rows hrows]

theorem shows_joined {depth : Nat} {gap : Step}
    (hgap : Contained r [gap] → SelfContained (gap.text r).toList) :
    (items : List Value) → Contained r (joined depth gap items) →
      (Shows (written r (joined depth gap items)) ↔
        (1 < items.length ∧ Shows (gap.text r).toList) ∨ r.AnyExposes items)
  | [], _ => by
    simpa [joined, Renderer.AnyExposes] using not_shows_nil
  | [item], hc => by
    rw [joined, shows_of item hc]
    simp [Renderer.AnyExposes]
  | item :: next :: items, hc => by
    rw [joined_cons_cons] at hc ⊢
    simp only [contained_append] at hc
    rw [written_append, shows_append (selfContained_of hlegacy hc.1),
      shows_step_append (hgap hc.2.1), shows_of item hc.1, shows_joined hgap _ hc.2.2]
    have hlong : 1 < (item :: next :: items).length := by simp
    rw [and_iff_right hlong, Renderer.AnyExposes]
    constructor
    · rintro (hitem | hshows | ⟨-, hshows⟩ | hrest)
      · exact .inr (.inl hitem)
      · exact .inl hshows
      · exact .inl hshows
      · exact .inr (.inr hrest)
    · rintro (hshows | hitem | hrest)
      · exact .inr (.inl hshows)
      · exact .inl hitem
      · exact .inr (.inr (.inr hrest))

theorem shows_joinedRows {depth : Nat} :
    (rows : List (Row Value)) → Contained r (joinedRows depth rows) →
      (Shows (written r (joinedRows depth rows)) ↔ r.AnyRowExposes rows)
  | [], _ => by
    simpa [joinedRows, Renderer.AnyRowExposes] using not_shows_nil
  | [⟨cells, separator⟩], hc => by
    rw [joinedRows] at hc ⊢
    rw [shows_joined (fun _ => cellMark_hidden.1) cells hc]
    simp [Renderer.AnyRowExposes, cellMark_hidden.2]
  | ⟨cells, separator⟩ :: next :: rows, hc => by
    rw [joinedRows_cons_cons] at hc ⊢
    simp only [contained_append] at hc
    have harranged : Arranged true (joined depth (.mark " & ") cells) :=
      .joined depth (.joint (by simp [joints]) fun _ => rfl) cells
    rw [written_append, shows_append (harranged.selfContained hlegacy hc.1),
      shows_mark_append (by decide) (by decide), shows_joinedRows (next :: rows) hc.2.2,
      shows_joined (fun _ => cellMark_hidden.1) cells hc.1]
    simp [Renderer.AnyRowExposes, cellMark_hidden.2]

end

end

end Steps

namespace Renderer

variable {r : Renderer}

/-- The root that a walk has written, read again. Its index is the optional argument if the tree of
the index shows no bracket; otherwise the argument ends inside of the index. -/
theorem readOption_root (r : Renderer) (index radicand : Value) (p q : Pass)
    (hsqrt : r.table.resolve (some "sqrt") = "\\sqrt") (hindex : isNoIndex index = false)
    (h : (r.append (.binary (.symbol (some "root")) index radicand)).run p = .ok ((), q)) :
    ∃ I R options, (r.render index).outcome = .ok I ∧ (r.render radicand).outcome = .ok R ∧
      options = "[" ++ I ++ "]\x7b" ++ R ++ "\x7d" ∧ q.text = p.text ++ ("\\sqrt" ++ options) ∧
      (r.settings.legacyAccents = false → Contained r (Steps.of 0 index) →
        (¬ r.Exposes index → readOption options.toList = some I.toList) ∧
        (r.Exposes index → ∃ first more, I.toList = first ++ ']' :: more ∧
          readOption options.toList = some first)) := by
  let I := text r (Steps.of 0 index)
  let R := text r (Steps.of 0 radicand)
  have hoptions : ("[" ++ I ++ "]\x7b" ++ R ++ "\x7d").toList =
      '[' :: (I.toList ++ ']' :: ('\x7b' :: (R.toList ++ ['\x7d']))) := by
    simp
  have hindexed : (r.render index).outcome = .ok I :=
    outcome_of_part (clear_of_run h) (infix_binary_left rfl hindex (List.infix_refl _))
  have hrooted : (r.render radicand).outcome = .ok R :=
    outcome_of_part (clear_of_run h) (infix_binary_right rfl (List.infix_refl _))
  refine ⟨I, R, _, hindexed, hrooted, rfl, ?_, fun hlegacy hc => ?_⟩
  · have hI : I.toList = written r (Steps.of 0 index) := rfl
    have hR : R.toList = written r (Steps.of 0 radicand) := rfl
    rw [← String.toList_inj, text_of_run h, String.toList_append, String.toList_append, hoptions,
      hI, hR]
    simp [Steps.of, Steps.binary, Steps.root, Steps.bracketed, hindex, Steps.braced, Step.text,
      hsqrt, written_of_depth]
  · have hnested : SelfContained I.toList := selfContained_of hlegacy hc
    have hshows : Shows I.toList ↔ r.Exposes index := shows_of hlegacy index hc
    rw [hoptions]
    exact ⟨fun hexposes => readOption_of_not_shows hnested (hshows.not.mpr hexposes),
      fun hexposes => readOption_of_shows hnested (hshows.mpr hexposes)⟩

/-- A root in the index of a root is read with it where it stands in braces. -/
theorem readOption_root_fraction :
    let r := Renderer.ofSettings {}
    let cube := Value.binary (.symbol (some "root")) (.literal "3") (.literal "x")
    let index := Value.binary (.symbol (some "frac")) cube (.literal "2")
    let latex := "\\frac\x7b\\sqrt[3]\x7bx\x7d\x7d\x7b2\x7d"
    (r.render index).outcome = .ok latex ∧
      ∃ options, readOption options.toList = some latex.toList ∧
        (r.render (.binary (.symbol (some "root")) index (.literal "y"))).outcome =
          .ok ("\\sqrt" ++ options) := by
  intro r cube index latex
  let tree := Value.binary (.symbol (some "root")) index (.literal "y")
  have hc : Contained r (Steps.of 0 index) := ⟨by decide, by decide, by decide⟩
  have hclear : Clear r.settings.maxDepth (Steps.of Pass.start.depth tree) :=
    (clear_of (Nat.zero_le _) tree).mpr (by decide)
  have hexposes : ¬ r.Exposes index := by
    have hfrac : ¬ r.TagExposes (some "frac") := by decide
    simpa [index, Exposes] using hfrac
  have hlatex : text r (Steps.of 0 index) = latex := by
    decide +kernel
  have hown : (r.render index).outcome = .ok latex := by
    rw [← hlatex]
    exact outcome_of_part hclear (infix_binary_left rfl rfl (List.infix_refl _))
  obtain ⟨I, R, options, hI, -, -, htext, hread⟩ :=
    readOption_root r index (.literal "y") .start _ rfl rfl (run_of_clear hclear)
  have hsame : I = latex := Except.ok.inj (hI.symm.trans hown)
  have hwhole : text r (Steps.of Pass.start.depth tree) = "\\sqrt" ++ options := by
    simpa [Pass.start] using htext
  refine ⟨hown, options, ?_, ?_⟩
  · rw [(hread rfl hc).1 hexposes, hsame]
  · rw [← hwhole]
    exact outcome_of_clear hclear

/-- A root that is itself the index of a root ends the index too early. -/
theorem readOption_root_root :
    let r := Renderer.ofSettings {}
    let cube := Value.binary (.symbol (some "root")) (.literal "3") (.literal "x")
    (r.render (.binary (.symbol (some "root")) cube (.literal "y"))).outcome =
        .ok "\\sqrt[\\sqrt[3]\x7bx\x7d]\x7by\x7d" ∧
      (r.render cube).outcome = .ok "\\sqrt[3]\x7bx\x7d" ∧
      readOption "[\\sqrt[3]\x7bx\x7d]\x7by\x7d".toList = some "\\sqrt[3".toList := by
  refine ⟨rfl, rfl, ?_⟩
  decide

end Renderer

end FormulaTex
