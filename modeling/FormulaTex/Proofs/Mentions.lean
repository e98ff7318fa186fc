import FormulaTex.Diagnostics
import FormulaTex.Proofs.Walk
import Mathlib.Logic.Basic

/-!
# What a rendering remarks

A tree mentions, in the order of the output, the tags that are looked up for it, the gaps between
the items of its sequences, its texts, and the values in it that are no nodes. The walk over the
tree asks the renderer for these and for nothing else. So the remarks on a rendering are those on
the mentions of its tree: one for each tag that no table knows, unless the walk itself asks for it,
and one for each value that is left out.
-/

namespace FormulaTex

open Diagnostics

inductive Mention where
  /-- A tag that is looked up. -/
  | tag (tag : Tag)
  /-- The gap between two items of a sequence that may have a separator of its own. -/
  | gap (separator : Option String)
  | text (content : String)
  /-- A value that is no node. -/
  | stranger (typeName : String)
deriving DecidableEq, Repr

namespace Mention

/-- What stands in the output for a mention. -/
def fragment (r : Renderer) : Mention → String
  | .tag name => r.table.resolve name
  | .gap separator => separator.getD r.settings.separator
  | .text content => Latex.escapeText r.settings.legacyAccents content
  | .stranger _ => ""

/-- The tags whose macro is meant, although no table has to know them. -/
def meantTags : List String := ["frown", "lfloor", "overset", "rfloor", "sqrt"]

/-- The remark on a mention. A tag is remarked on if it has a name that is not meant as a macro, and
the table has no fragment for it or an empty one. -/
def remark? (table : SymbolTable) : Mention → Option Remark
  | .tag (some name) =>
    if name ∈ meantTags ∨ (table.get? (some name)).getD "" ≠ "" then none
    else some (.event "symbol_fallback" [(.str "tag", .str name)])
  | .stranger typeName => some (.warning ("Skipped unsupported node of type " ++ typeName))
  | _ => none

def fenced (left right : Option Tag) (body : List Mention) : List Mention :=
  match left, right with
  | none, none => body
  | left, right => .tag left.join :: (body ++ [.tag right.join])

/-- The mentions of a symbol that is applied to an operand. Four symbols are not looked up
themselves. -/
def applied (operator : Tag) (operand : List Mention) : List Mention :=
  if operator = some "norm" then fenced (some (some "lvert")) (some (some "rvert")) operand
  else if operator = some "floor" then fenced (some (some "lfloor")) (some (some "rfloor")) operand
  else if operator = some "ceil" then
    fenced (some (some "lceiling")) (some (some "rceiling")) operand
  else if operator = some "overarc" then
    .tag (some "overset") :: .tag (some "frown") :: operand
  else .tag operator :: operand

def unary (operator : Value) (operand : List Mention) : List Mention :=
  match operator with
  | .symbol name => applied name operand
  | .rawText _ => operand
  | _ => []

/-- The mentions of an operation on two operands. A root does not look its own symbol up, and its
index may be left out. -/
def binary (operator index : Value) (left right : List Mention) : List Mention :=
  match operator with
  | .symbol operator =>
    if operator = some "root" then
      .tag (some "sqrt") :: ((if Renderer.isNoIndex index then [] else left) ++ right)
    else .tag operator :: (left ++ right)
  | .rawText _ => left ++ right
  | _ => []

end Mention

namespace Value

mutual

/-- What a value mentions, in the order of the output. -/
def mentions : Value → List Mention
  | .null => []
  | .sequence items separator => mentionsOfItems [.gap separator] items
  | .literal text => [.text text]
  | .symbol tag => [.tag tag]
  | .textRun content => [.text content]
  | .parenthesized inner left right => Mention.fenced left right (mentions inner)
  | .subSup base sub sup => mentions base ++ (mentions sub ++ mentions sup)
  | .unary operator operand => Mention.unary operator (mentions operand)
  | .binary operator left right => Mention.binary operator left (mentions left) (mentions right)
  | .matrix rows left right => Mention.fenced left right (mentionsOfRows rows)
  | v => [.stranger v.typeName]

def mentionsOfItems (between : List Mention) : List Value → List Mention
  | [] => []
  | [item] => mentions item
  | item :: items => mentions item ++ (between ++ mentionsOfItems between items)

/-- The cells of a matrix are parted by marks of its own. -/
def mentionsOfRows : List (Row Value) → List Mention
  | [] => []
  | ⟨cells, _⟩ :: rows => mentionsOfItems [] cells ++ mentionsOfRows rows

end

theorem mentionsOfItems_cons_cons (between : List Mention) (item next : Value)
    (items : List Value) :
    mentionsOfItems between (item :: next :: items) =
      mentions item ++ (between ++ mentionsOfItems between (next :: items)) := rfl

theorem mentionsOfRows_cons (row : Row Value) (rows : List (Row Value)) :
    mentionsOfRows (row :: rows) = mentionsOfItems [] row.cells ++ mentionsOfRows rows := rfl

end Value

@[simp]
def Step.mention? : Step → Option Mention
  | look tag => some (.tag tag)
  | gap separator => some (.gap separator)
  | content text => some (.text text)
  | skip typeName => some (.stranger typeName)
  | _ => none

theorem Step.text_of_mention? {r : Renderer} {s : Step} {m : Mention} (h : s.mention? = some m) :
    s.text r = m.fragment r := by
  cases s <;> cases h <;> rfl

namespace Steps

def mentions (steps : List Step) : List Mention :=
  steps.filterMap Step.mention?

variable {a b : List Step}

@[simp] theorem mentions_nil : mentions [] = [] := rfl

@[simp] theorem mentions_append : mentions (a ++ b) = mentions a ++ mentions b := by
  simp [mentions]

@[simp] theorem mentions_cons (s : Step) :
    mentions (s :: a) = s.mention?.toList ++ mentions a := by
  cases h : s.mention? with
  | none => exact List.filterMap_cons_none h
  | some m => exact List.filterMap_cons_some h

@[simp] theorem mentions_braced : mentions (braced a) = mentions a := by
  simp [braced]

@[simp] theorem mentions_upright (text : String) : mentions (upright text) = [.text text] := rfl

@[simp] theorem mentions_literal (text : String) : mentions (literal text) = [.text text] := by
  unfold literal
  split
  · exact mentions_upright text
  · rfl

@[simp] theorem mentions_delimited (left right : Option Tag) :
    mentions (delimited left right a) = Mention.fenced left right (mentions a) := by
  cases left <;> cases right <;> simp [delimited, Mention.fenced]

@[simp] theorem mentions_grouped (argument : Value) :
    mentions (grouped argument a) = mentions a := by
  unfold grouped
  split
  · exact mentions_braced
  · rfl

theorem mentions_script (mark : String) {argument : Value}
    (h : mentions a = argument.mentions) :
    mentions (script mark argument a) = argument.mentions := by
  unfold script
  by_cases hnull : argument.isNull = true
  · have hargument : argument = .null := by
      unfold Value.isNull at hnull
      split at hnull
      · rfl
      · cases hnull
    simp [hargument, Value.mentions, Value.isNull]
  · simp [hnull, h]

theorem mentions_unary (depth : Nat) (operator : Value) :
    mentions (unary depth operator a) = Mention.unary operator (mentions a) := by
  cases operator with
  | symbol tag =>
    simp only [unary, applied, Mention.unary, Mention.applied]
    split_ifs <;> simp
  | rawText text => simp [unary, Mention.unary]
  | _ => simp [unary, Mention.unary]

theorem mentions_binary (operator index : Value) :
    mentions (binary operator index a b) =
      Mention.binary operator index (mentions a) (mentions b) := by
  cases operator with
  | symbol tag =>
    simp only [binary, root, bracketed, Mention.binary]
    split_ifs <;> simp
  | rawText text => simp [binary, Mention.binary]
  | _ => simp [binary, Mention.binary]

theorem mentions_matrix (left right : Option Tag) :
    mentions (matrix left right a) = Mention.fenced left right (mentions a) := by
  simp [matrix]

mutual

/-- The steps of a walk mention what the tree mentions, in the same order. -/
theorem mentions_of (depth : Nat) : (v : Value) → mentions (of depth v) = v.mentions
  | .scalar s => by cases s <;> simp [of, Value.mentions]
  | .list .. | .tuple _ | .set _ | .map .. | .cycle .. | .rawText _ | .literal _ | .symbol _
  | .textRun _ => by simp [of, Value.mentions]
  | .sequence items separator => by
    have hitems := mentions_joined (depth + 1) (.gap separator) items
    simpa [of, Value.mentions] using hitems
  | .parenthesized inner left right => by
    simp [of, Value.mentions, mentions_of (depth + 1) inner]
  | .subSup base sub sup => by
    have hbase := mentions_of (depth + 1) base
    have hsub := mentions_script "_" (mentions_of (depth + 1) sub)
    have hsup := mentions_script "^" (mentions_of (depth + 1) sup)
    simp [of, Value.mentions, hbase, hsub, hsup]
  | .unary operator operand => by
    simp [of, Value.mentions, mentions_unary, mentions_of (depth + 1) operand]
  | .binary operator left right => by
    have hleft := mentions_of (depth + 1) left
    have hright := mentions_of (depth + 1) right
    simp [of, Value.mentions, mentions_binary, hleft, hright]
  | .matrix rows left right => by
    simp [of, Value.mentions, mentions_matrix, mentions_joinedRows (depth + 1) rows]

theorem mentions_joined (depth : Nat) (gap : Step) :
    (items : List Value) → mentions (joined depth gap items) =
      Value.mentionsOfItems gap.mention?.toList items
  | [] => rfl
  | [item] => mentions_of depth item
  | item :: next :: items => by
    rw [joined_cons_cons, Value.mentionsOfItems_cons_cons, mentions_append, mentions_append,
      mentions_of depth item, mentions_joined depth gap (next :: items)]
    simp

theorem mentions_joinedRows (depth : Nat) :
    (rows : List (Row Value)) → mentions (joinedRows depth rows) = Value.mentionsOfRows rows
  | [] => rfl
  | [⟨cells, _⟩] => by
    have hcells := mentions_joined depth (.mark " & ") cells
    simpa [joinedRows, Value.mentionsOfRows] using hcells
  | ⟨cells, _⟩ :: next :: rows => by
    have hcells := mentions_joined depth (.mark " & ") cells
    have hrows := mentions_joinedRows depth (next :: rows)
    rw [joinedRows_cons_cons, Value.mentionsOfRows_cons, mentions_append, mentions_append, hrows]
    simpa using hcells

end

theorem text_eq_join (r : Renderer) (steps : List Step) :
    text r steps = String.join (steps.map (Step.text r)) := by
  induction steps with
  | nil => rfl
  | cons s rest ih => rw [text, ih, List.map_cons, String.join_cons]

/-- A walk that does not fail makes the notes of all its steps. -/
theorem notes_draft {r : Renderer} {steps : List Step} {latex : String}
    (h : (draft r steps).outcome = .ok latex) :
    (draft r steps).notes = steps.flatMap (Step.notes r) := by
  induction steps generalizing latex with
  | nil => rfl
  | cons s rest ih =>
    cases hs : s.fault? r.settings.maxDepth with
    | some fault => simp [draft, Draft.append_def, Draft.append, Step.draft, hs] at h
    | none =>
      simp only [draft, Draft.append_def, Draft.append, Step.draft, hs] at h ⊢
      cases hrest : (draft r rest).outcome with
      | ok text => rw [ih hrest, List.flatMap_cons]
      | error fault => simp [hrest, Except.map] at h

end Steps

/-- A fragment that is missing and one that is empty make a tag unknown alike. -/
theorem SymbolTable.isKnown_iff (table : SymbolTable) (tag : Tag) :
    table.isKnown tag = true ↔ (table.get? tag).getD "" ≠ "" := by
  unfold isKnown
  cases table.get? tag <;> simp

theorem Renderer.isNoted_iff {r : Renderer} {name : String} :
    r.isNoted name = true ↔
      ¬ (name ∈ Mention.meantTags ∨ (r.table.get? (some name)).getD "" ≠ "") := by
  have hknown := SymbolTable.isKnown_iff r.table (some name)
  simp only [isNoted, Bool.and_eq_true, Bool.not_eq_true', ← Bool.not_eq_true, not_or, hknown]
  simp [ownTags, Mention.meantTags]

theorem Step.map_ofNote_notes (r : Renderer) (s : Step) :
    (s.notes r).map Remark.ofNote = (s.mention?.bind (Mention.remark? r.table)).toList := by
  cases s with
  | look tag =>
    cases tag with
    | none => rfl
    | some name =>
      by_cases h : r.isNoted name = true
      · have hunknown := Renderer.isNoted_iff.mp h
        simp [Step.notes, Renderer.note?, h, mention?, Mention.remark?, hunknown, Remark.ofNote,
          fallbackName]
      · have hknown := not_not.mp fun hunknown => h (Renderer.isNoted_iff.mpr hunknown)
        simp [Step.notes, Renderer.note?, h, mention?, Mention.remark?, hknown]
  | _ => rfl

theorem Steps.map_ofNote_notes (r : Renderer) (steps : List Step) :
    (steps.flatMap (Step.notes r)).map Remark.ofNote =
      (mentions steps).filterMap (Mention.remark? r.table) := by
  induction steps with
  | nil => rfl
  | cons s rest ih =>
    rw [List.flatMap_cons, List.map_append, ih, Step.map_ofNote_notes, mentions, mentions,
      List.filterMap_cons]
    cases hs : s.mention? with
    | none => rfl
    | some m => cases hm : m.remark? r.table <;> simp [hm]

namespace Renderer

/-- The remarks on a tree that is rendered are those on its mentions, each at its place: the text
comes in pieces, of which those that mention something are the mentions of the tree in order, each
with its fragment. A tag that is remarked on is spelled as a macro there. -/
theorem render_remarks (r : Renderer) (tree : Value) (latex : String)
    (h : (r.render tree).outcome = .ok latex) :
    (r.render tree).notes.map Remark.ofNote = tree.mentions.filterMap (Mention.remark? r.table) ∧
    (∃ pieces : List (String × Option Mention),
      latex = String.join (pieces.map (·.1)) ∧ pieces.filterMap (·.2) = tree.mentions ∧
        ∀ piece ∈ pieces, ∀ m, piece.2 = some m → piece.1 = m.fragment r) ∧
    ∀ name, (Mention.tag (some name)).remark? r.table ≠ none →
      (Mention.tag (some name)).fragment r = "\\" ++ name := by
  rw [render_eq_draft] at h ⊢
  refine ⟨?_, ?_, ?_⟩
  · rw [Steps.notes_draft h, Steps.map_ofNote_notes, Steps.mentions_of]
  · refine ⟨(Steps.of 0 tree).map fun s => (s.text r, s.mention?), ?_, ?_, ?_⟩
    · rw [Steps.eq_text_of_outcome h, Steps.text_eq_join, List.map_map]
      rfl
    · rw [← Steps.mentions_of 0 tree, Steps.mentions, List.filterMap_map]
      rfl
    · intro piece hpiece m hm
      obtain ⟨s, -, rfl⟩ := List.mem_map.mp hpiece
      exact Step.text_of_mention? hm
  · intro name hremark
    have hunknown : r.table.isKnown (some name) = false := by
      rw [← Bool.not_eq_true, SymbolTable.isKnown_iff]
      intro hfragment
      exact hremark (if_pos (Or.inr hfragment))
    exact SymbolTable.resolve_of_not_isKnown hunknown

/-- A tag is remarked on at every place, a number between the symbols is skipped, and the tags that
a norm and a frame ask for are not remarked on. -/
theorem render_remarks_repeated :
    let r := ofSettings {}
    let zeta := Value.symbol (some "zeta")
    let tree := Value.sequence [zeta, .unary (.symbol (some "norm")) zeta, .scalar (.int 3),
      .parenthesized (.symbol (some "eta")) (some (some "lfloor")) none,
      .unary (.symbol (some "overarc")) (.literal "x")] none
    (r.render tree).outcome =
      .ok ("\\zeta \\left \\lVert \\zeta \\right \\rVert  " ++
        "\\left \\lfloor \\eta \\right . \\overset\x7b\\frown\x7d\x7bx\x7d") ∧
      (r.render tree).notes.map Remark.ofNote =
        [.event "symbol_fallback" [(.str "tag", .str "zeta")],
          .event "symbol_fallback" [(.str "tag", .str "zeta")],
          .warning "Skipped unsupported node of type int",
          .event "symbol_fallback" [(.str "tag", .str "eta")]] := by
  constructor
  · rfl
  · exact And.left (render_remarks _ _ _ rfl)

end Renderer

end FormulaTex
