import FormulaTex.Renderer

/-!
# The steps of a walk

A walk over a tree, written out as the list of its steps in the order of the output. The list
depends on the tree alone: which tags are looked up, where text and separators stand, at which level
of depth each value is met, and where an operator is refused. What a step writes, notes or fails at
is up to the renderer. The draft of a list puts the drafts of its steps one after another.
-/

namespace FormulaTex

inductive Step where
  /-- A value is met at a level of depth; the root of a tree stands at level one. -/
  | enter (level : Nat)
  /-- Markup of the walk itself. -/
  | mark (fragment : String)
  | look (tag : Tag)
  /-- An operator that is written as it is. -/
  | raw (fragment : String)
  /-- The gap between two items of a sequence that may have a separator of its own. -/
  | gap (separator : Option String)
  | content (text : String)
  /-- A value that is no node. -/
  | skip (typeName : String)
  | refuse (operator : Value) (arity : Arity)

namespace Step

/-- What a step adds to the text. -/
def text (r : Renderer) : Step → String
  | mark fragment => fragment
  | look tag => r.table.resolve tag
  | raw fragment => fragment
  | gap separator => separator.getD r.settings.separator
  | content text => Latex.escapeText r.settings.legacyAccents text
  | _ => ""

def notes (r : Renderer) : Step → List Note
  | look tag => (r.note? tag).toList
  | skip typeName => [.skipped typeName]
  | _ => []

/-- The fault at which a walk of at most `limit` levels ends. -/
def fault? (limit : Nat) : Step → Option RenderFault
  | enter level => if limit < level then some (.tooDeep limit) else none
  | refuse operator arity => some (.ofOperator operator arity)
  | _ => none

def draft (r : Renderer) (s : Step) : Draft where
  notes := s.notes r
  outcome :=
    match s.fault? r.settings.maxDepth with
    | some fault => .error fault
    | none => .ok (s.text r)

/-- The same step of a walk that starts further down. -/
def lower (k : Nat) : Step → Step
  | enter level => enter (k + level)
  | s => s

end Step

namespace Steps

def braced (body : List Step) : List Step :=
  [.mark "\x7b"] ++ (body ++ [.mark "\x7d"])

def upright (text : String) : List Step :=
  [.mark "\\text\x7b"] ++ ([.content text] ++ [.mark "\x7d"])

def literal (text : String) : List Step :=
  if 1 < text.length && !Latex.isNumeric text then upright text else [.content text]

def delimited (left right : Option Tag) (body : List Step) : List Step :=
  match left, right with
  | none, none => body
  | left, right =>
    [.mark "\\left "] ++ ([.look left.join] ++ ([.mark " "] ++ (body ++
      ([.mark " \\right "] ++ [.look right.join]))))

def grouped (argument : Value) (body : List Step) : List Step :=
  if argument.isGrouped then braced body else body

def script (mark : String) (argument : Value) (body : List Step) : List Step :=
  if argument.isNull then [] else [.mark mark] ++ grouped argument body

/-- A symbol applied to an operand, `depth` levels down. -/
def applied (depth : Nat) (tag : Tag) (body : List Step) : List Step :=
  if tag = some "norm" then delimited (some (some "lvert")) (some (some "rvert")) body
  else if tag = some "floor" then delimited (some (some "lfloor")) (some (some "rfloor")) body
  else if tag = some "ceil" then delimited (some (some "lceiling")) (some (some "rceiling")) body
  else if tag = some "overarc" then
    [.look (some "overset")] ++ (braced ([.enter (depth + 1)] ++ [.look (some "frown")])
      ++ braced body)
  else [.look tag] ++ braced body

def unary (depth : Nat) (operator : Value) (body : List Step) : List Step :=
  match operator with
  | .symbol tag => applied depth tag body
  | .rawText text => [.raw ("\\" ++ text)] ++ braced body
  | operator => [.refuse operator .unary]

def bracketed (index : Value) (body : List Step) : List Step :=
  if Renderer.isNoIndex index then [] else [.mark "["] ++ (body ++ [.mark "]"])

def root (index : Value) (left right : List Step) : List Step :=
  [.look (some "sqrt")] ++ (bracketed index left ++ braced right)

def binary (operator index : Value) (left right : List Step) : List Step :=
  match operator with
  | .symbol tag =>
    if tag = some "root" then root index left right
    else [.look tag] ++ (braced left ++ braced right)
  | .rawText text => [.raw text] ++ (braced left ++ braced right)
  | operator => [.refuse operator .binary]

def matrix (left right : Option Tag) (rows : List Step) : List Step :=
  delimited left right
    ([.mark "\\begin\x7bmatrix\x7d "] ++ (rows ++ [.mark " \\end\x7bmatrix\x7d"]))

mutual

/-- The steps of the walk over a value that is met `depth` levels down. -/
def of (depth : Nat) : Value → List Step
  | .null => []
  | .sequence items separator =>
    [.enter (depth + 1)] ++ joined (depth + 1) (.gap separator) items
  | .literal text => [.enter (depth + 1)] ++ literal text
  | .symbol tag => [.enter (depth + 1)] ++ [.look tag]
  | .textRun content => [.enter (depth + 1)] ++ upright content
  | .parenthesized inner left right =>
    [.enter (depth + 1)] ++ delimited left right (of (depth + 1) inner)
  | .subSup base sub sup =>
    [.enter (depth + 1)] ++ (grouped base (of (depth + 1) base) ++
      (script "_" sub (of (depth + 1) sub) ++ script "^" sup (of (depth + 1) sup)))
  | .unary operator operand =>
    [.enter (depth + 1)] ++ unary (depth + 1) operator (of (depth + 1) operand)
  | .binary operator left right =>
    [.enter (depth + 1)] ++ binary operator left (of (depth + 1) left) (of (depth + 1) right)
  | .matrix rows left right =>
    [.enter (depth + 1)] ++ matrix left right (joinedRows (depth + 1) rows)
  | v => [.enter (depth + 1)] ++ [.skip v.typeName]

def joined (depth : Nat) (gap : Step) : List Value → List Step
  | [] => []
  | [item] => of depth item
  | item :: items => of depth item ++ ([gap] ++ joined depth gap items)

def joinedRows (depth : Nat) : List (Row Value) → List Step
  | [] => []
  | [⟨cells, _⟩] => joined depth (.mark " & ") cells
  | ⟨cells, _⟩ :: rows =>
    joined depth (.mark " & ") cells ++ ([.mark " \\\\ "] ++ joinedRows depth rows)

end

theorem joined_cons_cons (depth : Nat) (gap : Step) (item next : Value) (items : List Value) :
    joined depth gap (item :: next :: items) =
      of depth item ++ ([gap] ++ joined depth gap (next :: items)) := rfl

theorem joinedRows_cons_cons (depth : Nat) (row next : Row Value) (rows : List (Row Value)) :
    joinedRows depth (row :: next :: rows) =
      joined depth (.mark " & ") row.cells ++
        ([.mark " \\\\ "] ++ joinedRows depth (next :: rows)) := rfl

def draft (r : Renderer) : List Step → Draft
  | [] => .empty
  | s :: rest => s.draft r ++ draft r rest

@[simp] theorem draft_nil (r : Renderer) : draft r [] = .empty := rfl

@[simp] theorem draft_singleton (r : Renderer) (s : Step) : draft r [s] = s.draft r := by
  simp [draft]

theorem draft_append (r : Renderer) (a b : List Step) :
    draft r (a ++ b) = draft r a ++ draft r b := by
  induction a with
  | nil => simp [draft]
  | cons s rest ih => simp [draft, ih, Draft.append_assoc]

def text (r : Renderer) : List Step → String
  | [] => ""
  | s :: rest => s.text r ++ text r rest

theorem text_append (r : Renderer) (a b : List Step) : text r (a ++ b) = text r a ++ text r b := by
  induction a with
  | nil => simp [text]
  | cons s rest ih => simp [text, ih, String.append_assoc]

/-- The first fault ends the walk, and a walk without one writes all its text. -/
theorem outcome_draft (r : Renderer) (steps : List Step) :
    (draft r steps).outcome =
      match steps.findSome? (Step.fault? r.settings.maxDepth) with
      | some fault => .error fault
      | none => .ok (text r steps) := by
  induction steps with
  | nil => rfl
  | cons s rest ih =>
    cases hs : s.fault? r.settings.maxDepth with
    | some fault => simp [draft, Draft.append_def, Draft.append, Step.draft, hs]
    | none =>
      simp only [draft, Draft.append_def, Draft.append, Step.draft, List.findSome?_cons, hs, ih]
      cases rest.findSome? (Step.fault? r.settings.maxDepth) <;> simp [Except.map, text]

theorem eq_text_of_outcome {r : Renderer} {steps : List Step} {latex : String}
    (h : (draft r steps).outcome = .ok latex) : latex = text r steps := by
  rw [outcome_draft] at h
  split at h
  · cases h
  · cases h
    rfl

end Steps

end FormulaTex
