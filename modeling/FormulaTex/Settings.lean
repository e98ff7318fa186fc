import FormulaTex.SymbolTable
import FormulaTex.Text.Blank

/-!
# Settings

The settings of a rendering: the text between the children of a sequence without a separator of
its own, the greatest nesting depth, the custom symbols, and whether characters outside ASCII
become legacy macros. Settings in use are valid: the depth is at least one, and no custom symbol
has a blank tag or a blank fragment.
-/

namespace FormulaTex

structure Settings where
  separator : String := " "
  maxDepth : Nat := 100
  symbols : List (String × String) := []
  legacyAccents : Bool := false
deriving DecidableEq, Repr, Inhabited

namespace Settings

open Text

/-- What validation promises of the settings it lets through. -/
structure IsValid (settings : Settings) : Prop where
  one_le_maxDepth : 1 ≤ settings.maxDepth
  tag_not_blank : ∀ entry ∈ settings.symbols, allBlank entry.1 = false
  fragment_not_blank : ∀ entry ∈ settings.symbols, allBlank entry.2 = false

theorem isValid_default : IsValid {} where
  one_le_maxDepth := by decide
  tag_not_blank := by simp
  fragment_not_blank := by simp

def table (settings : Settings) : SymbolTable :=
  .layered settings.symbols

/-- The fields as they are written in a document, in the order in which they are checked. -/
inductive Field where
  | separator
  | maxDepth
  | symbols
  | legacyAccents
deriving DecidableEq, Repr

namespace Field

def name : Field → String
  | separator => "separator"
  | maxDepth => "max_depth"
  | symbols => "symbols"
  | legacyAccents => "legacy_latex_accents"

def all : List Field := [separator, maxDepth, symbols, legacyAccents]

def isName (name : String) : Bool :=
  all.any fun field => field.name == name

end Field

end Settings

end FormulaTex
