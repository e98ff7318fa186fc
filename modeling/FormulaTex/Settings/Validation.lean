import FormulaTex.Settings
import FormulaTex.Settings.Coercion
import FormulaTex.Value.Equality
import FormulaTex.Value.Scope

/-!
# Validation of settings

Settings are read from a mapping, which may keep them in a section of their own, and changed only
by overlaying values on the fields and reading the result again. The settings overlaid stay what
they are: others are made, and all that have been made are known by their places. All issues are
reported, those of the fields first, in the order of the fields, and then those of entries that are
no field.
-/

namespace FormulaTex
namespace Settings

open Text

/-- Puts an entry into an ordered map of texts; a key that is there keeps its place. -/
def insertText (key value : String) : List (String × String) → List (String × String)
  | [] => [(key, value)]
  | (k, v) :: rest => if k = key then (k, value) :: rest else (k, v) :: insertText key value rest

/-- One custom symbol: issues of the tag come before issues of the fragment. -/
def readSymbol (entry : Scalar × Value) : Checked (String × String) :=
  let (key, value) := entry
  let step := Place.ofKey key
  let tag := ((readText (.scalar key)).within (.name "[key]")).within step
  let fragment := (readText value).within step
  match tag, fragment with
  | .ok tag, .ok fragment => .ok (tag, fragment)
  | tag, fragment => .error (tag.issues ++ fragment.issues)

def readSymbolEntries (entries : List (Scalar × Value)) : Checked (List (String × String)) :=
  let read := entries.map readSymbol
  let issues := read.flatMap Checked.issues
  if issues.isEmpty then
    .ok (read.foldl (fun symbols entry =>
      match entry with
      | .ok (tag, fragment) => insertText tag fragment symbols
      | .error _ => symbols) [])
  else .error issues

/-- The tags of custom symbols with a blank fragment, in the order of their characters. -/
def blankFragmentTags (symbols : List (String × String)) : List String :=
  ((symbols.filter fun (_, fragment) => allBlank fragment).map (·.1)).mergeSort
    fun a b => !decide (b < a)

def checkSymbols (symbols : List (String × String)) : Checked (List (String × String)) :=
  if symbols.any fun (tag, _) => allBlank tag then .refuse .blankTag
  else
    let tags := blankFragmentTags symbols
    if tags.isEmpty then .ok symbols else .refuse (.blankFragments tags)

def readSymbols (value : Value) : Checked (List (String × String)) :=
  match value.entries? with
  | some entries => do checkSymbols (← readSymbolEntries entries)
  | none => .refuse .notMapping

/-- Reads one field. A field that is left out has its default. -/
def readField {α : Type} (entries : List (Scalar × Value)) (field : Field) (default : α)
    (read : Value → Checked α) : Checked α :=
  match field? field.name entries with
  | none => .ok default
  | some value => (read value).within (.name field.name)

/-- The issue of an entry that is no field. -/
def entryIssue? (entry : Scalar × Value) : Option Issue :=
  match entry.1 with
  | .str name => if Field.isName name then none else some ⟨[.name name], .unknownField⟩
  | key => some ⟨[.ofKey key], .keyNotText⟩

/-- Settings from the entries of a mapping. -/
def ofEntries (entries : List (Scalar × Value)) : Checked Settings :=
  let separator := readField entries .separator " " readText
  let maxDepth := readField entries .maxDepth 100 readDepth
  let symbols := readField entries .symbols [] readSymbols
  let legacyAccents := readField entries .legacyAccents false readTruth
  let others := entries.filterMap entryIssue?
  match separator, maxDepth, symbols, legacyAccents, others with
  | .ok separator, .ok maxDepth, .ok symbols, .ok legacyAccents, [] =>
    .ok ⟨separator, maxDepth, symbols, legacyAccents⟩
  | separator, maxDepth, symbols, legacyAccents, others =>
    .error (separator.issues ++ maxDepth.issues ++ symbols.issues ++ legacyAccents.issues ++ others)

def ofSection (value : Value) : Checked Settings :=
  match value.entries? with
  | some entries => ofEntries entries
  | none => .refuse .notSettings

inductive Fault where
  | notMapping
  | invalid (issues : List Issue)
deriving DecidableEq, Repr

namespace Fault

def message : Fault → String
  | notMapping => "render configuration must be a mapping"
  | invalid issues => Issue.headline issues

end Fault

/-- Settings from data. No data at all means the defaults, and the settings may stand in a section
named `render`. -/
def ofValue (value : Value) : Except Fault Settings :=
  if value.isNull then .ok {}
  else
    match value.entries? with
    | some entries => (ofSection ((field? "render" entries).getD value)).mapError .invalid
    | none => .error .notMapping

/-- The settings as the entries of a mapping, every field included. -/
def entries (settings : Settings) : List (Scalar × Value) := [
  (.str Field.separator.name, .str settings.separator),
  (.str Field.maxDepth.name, .scalar (.int settings.maxDepth)),
  (.str Field.symbols.name,
    .map none (settings.symbols.map fun (tag, fragment) => (.str tag, .str fragment))),
  (.str Field.legacyAccents.name, .scalar (.bool settings.legacyAccents))]

/-- The overrides that are given; null stands for an override that is not. -/
def given (overrides : List (String × Value)) : List (String × Value) :=
  overrides.filter fun (_, value) => !value.isNull

/-- Overrides laid over the settings at a place among all that have been made. The result is the
place of the settings asked for, with all that have been made by then. Without overrides it is the
same place, and nothing is checked again. -/
def derive (made : List Settings) (place : Fin made.length) (overrides : List (String × Value)) :
    Checked (Nat × List Settings) :=
  match given overrides with
  | [] => .ok (place, made)
  | updates =>
    (ofEntries (updates.foldl (fun all (name, value) => insertEntry (.str name) value all)
      (made.get place).entries)).map fun next => (made.length, made ++ [next])

/-- Overrides laid over settings. -/
def merged (settings : Settings) (overrides : List (String × Value)) : Checked Settings :=
  (derive [settings] ⟨0, Nat.one_pos⟩ overrides).map fun (place, made) => made.getD place settings

/-- Settings are never changed in place: assigning to a field is refused, whatever the value. -/
def assign (_settings : Settings) (field : String) (_value : Value) : Checked Settings :=
  .error [⟨[.name field], .immutable⟩]

end Settings
end FormulaTex
