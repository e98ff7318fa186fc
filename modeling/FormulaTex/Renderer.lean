import FormulaTex.Value.Scope
import FormulaTex.Value.SetOrder
import FormulaTex.Latex.Escape
import FormulaTex.Pass
import FormulaTex.Settings

/-!
# Rendering of expression trees

A tree is turned into LaTeX by one walk. Nodes with parts stand in a brace group when they are an
argument, and so does the truth value; a lone literal or symbol stands bare. Text of more than one
character that does not start like a number is set upright. Delimiters come in pairs, and the
missing one of a pair is the nameless symbol.

Every value but null takes one level of depth, and a tree may not have more levels than the
settings allow. A missing value renders as nothing, and a value that is no node is left out with a
note.
-/

namespace FormulaTex

/-- Settings together with the symbol table that they make. -/
structure Renderer where
  settings : Settings
  table : SymbolTable

namespace Renderer

open Walk

def ofSettings (settings : Settings) : Renderer :=
  ⟨settings, settings.table⟩

/-- The same renderer with another limit of depth. -/
def withMaxDepth (r : Renderer) (limit : Nat) : Renderer :=
  { r with settings := { r.settings with maxDepth := limit } }

/-- Tags that the walk itself asks for. The macro of their name is meant, so it deserves no
note. -/
def ownTags : List String := ["frown", "lfloor", "overset", "rfloor", "sqrt"]

/-- Whether the macro that stands for a tag is worth a note. -/
def isNoted (r : Renderer) (tag : String) : Bool :=
  !ownTags.contains tag && !r.table.isKnown (some tag)

/-- The note on a tag, which is made if its fragment is a macro of last resort. -/
def note? (r : Renderer) : Tag → Option Note
  | some name => if r.isNoted name then some (.fallback name) else none
  | none => none

/-- Looks a tag up and writes its fragment. -/
def symbol (r : Renderer) (tag : Tag) : Walk := do
  if let some note := r.note? tag then remark note
  write (r.table.resolve tag)

def escaped (r : Renderer) (text : String) : Walk :=
  write (Latex.escapeText r.settings.legacyAccents text)

/-- Upright text. -/
def upright (r : Renderer) (text : String) : Walk := do
  write "\\text\x7b"
  r.escaped text
  write "\x7d"

def literal (r : Renderer) (text : String) : Walk :=
  if 1 < text.length && !Latex.isNumeric text then r.upright text else r.escaped text

/-- A body between delimiters. Without any delimiter it stands alone. -/
def delimited (r : Renderer) (left right : Option Tag) (body : Walk) : Walk :=
  match left, right with
  | none, none => body
  | left, right => do
    write "\\left "
    r.symbol left.join
    write " "
    body
    write " \\right "
    r.symbol right.join

/-- Takes one level of depth. -/
def enter (r : Renderer) (body : Walk) : Walk :=
  nested r.settings.maxDepth body

/-- An argument stands in braces if it has parts, or if it is the truth value. -/
def grouped (argument : Value) (body : Walk) : Walk :=
  if argument.isGrouped then braced body else body

/-- A script with its mark; a missing script leaves nothing behind. -/
def script (mark : String) (argument : Value) (body : Walk) : Walk :=
  if argument.isNull then pure ()
  else do
    write mark
    grouped argument body

/-- A symbol applied to one operand. Four tags stand for a construction of their own. -/
def applied (r : Renderer) (tag : Tag) (body : Walk) : Walk :=
  if tag = some "norm" then r.delimited (some (some "lvert")) (some (some "rvert")) body
  else if tag = some "floor" then r.delimited (some (some "lfloor")) (some (some "rfloor")) body
  else if tag = some "ceil" then
    r.delimited (some (some "lceiling")) (some (some "rceiling")) body
  else if tag = some "overarc" then do
    r.symbol (some "overset")
    braced (r.enter (r.symbol (some "frown")))
    braced body
  else do
    r.symbol tag
    braced body

def unary (r : Renderer) (operator : Value) (body : Walk) : Walk :=
  match operator with
  | .symbol tag => r.applied tag body
  | .rawText text => do
    write ("\\" ++ text)
    braced body
  | operator => stop (.ofOperator operator .unary)

/-- Whether the index of a root is left out. -/
def isNoIndex : Value → Bool
  | .null => true
  | .sequence items _ => items.isEmpty
  | .literal text => text.isEmpty
  | _ => false

/-- The index of a root stands in brackets. -/
def bracketed (index : Value) (body : Walk) : Walk :=
  if isNoIndex index then pure ()
  else do
    write "["
    body
    write "]"

def root (r : Renderer) (index : Value) (left right : Walk) : Walk := do
  r.symbol (some "sqrt")
  bracketed index left
  braced right

def binary (r : Renderer) (operator index : Value) (left right : Walk) : Walk :=
  match operator with
  | .symbol tag =>
    if tag = some "root" then r.root index left right
    else do
      r.symbol tag
      braced left
      braced right
  | .rawText text => do
    write text
    braced left
    braced right
  | operator => stop (.ofOperator operator .binary)

mutual

/-- The walk over a value. -/
def append (r : Renderer) : Value → Walk
  | .null => pure ()
  | .sequence items separator =>
    r.enter (joined r (separator.getD r.settings.separator) items)
  | .literal text => r.enter (r.literal text)
  | .symbol tag => r.enter (r.symbol tag)
  | .textRun content => r.enter (r.upright content)
  | .parenthesized inner left right => r.enter (r.delimited left right (append r inner))
  | .subSup base sub sup => r.enter do
    grouped base (append r base)
    script "_" sub (append r sub)
    script "^" sup (append r sup)
  | .unary operator operand => r.enter (r.unary operator (append r operand))
  | .binary operator left right =>
    r.enter (r.binary operator left (append r left) (append r right))
  | .matrix rows left right => r.enter <| r.delimited left right do
    write "\\begin\x7bmatrix\x7d "
    joinedRows r rows
    write " \\end\x7bmatrix\x7d"
  | v => r.enter (remark (.skipped v.typeName))

/-- Values in order with a separator between them. -/
def joined (r : Renderer) (separator : String) : List Value → Walk
  | [] => pure ()
  | [item] => append r item
  | item :: items => do
    append r item
    write separator
    joined r separator items

/-- Rows of a matrix. A row takes no level of depth, and its own separator does not count. -/
def joinedRows (r : Renderer) : List (Row Value) → Walk
  | [] => pure ()
  | [⟨cells, _⟩] => joined r " & " cells
  | ⟨cells, _⟩ :: rows => do
    joined r " & " cells
    write " \\\\ "
    joinedRows r rows

end

/-- Renders a tree. -/
def render (r : Renderer) (tree : Value) : Draft :=
  (r.append tree).draft

/-- Renders a tree where no walk can go deeper than `capacity` levels, whatever the settings
allow. The fault of a walk that goes too deep names the limit of the settings. -/
def renderWithin (r : Renderer) (capacity : Nat) (tree : Value) : Draft :=
  ((r.withMaxDepth (min capacity r.settings.maxDepth)).render tree).withLimit
    r.settings.maxDepth

end Renderer

end FormulaTex
