import FormulaTex.SymbolTable
import FormulaTex.Text.LowerCase
import FormulaTex.Text.Terminal

/-!
# Listings of symbol tables

A symbol table for people to read: one row for every tag, the nameless one under a name in
parentheses. A listing may be restricted to the tags that contain a text, whatever its case. It is
written with a tab between tag and fragment, or as a table in a frame.
-/

namespace FormulaTex
namespace Listing

open Text

/-- A row of a listing: a tag and its fragment. -/
abbrev Entry := String × String

def namelessTag : String := "(none)"

def entries (table : SymbolTable) : List Entry :=
  table.map fun (tag, fragment) =>
    match tag with
    | none => (namelessTag, fragment)
    | some tag => (if tag.isEmpty then namelessTag else tag, fragment)

/-- Whether a text occurs within another. -/
def occursIn (needle : List Char) : List Char → Bool
  | [] => needle.isEmpty
  | c :: rest => needle.isPrefixOf (c :: rest) || occursIn needle rest

/-- The entries whose tag contains a text. -/
def matching (pattern : String) (all : List Entry) : List Entry :=
  let needle := lower pattern.toList
  all.filter fun (tag, _) => occursIn needle (lower tag.toList)

def plain (all : List Entry) : String :=
  String.join (all.map fun (tag, fragment) => tag ++ "\t" ++ fragment ++ "\n")

/-- Text with blanks behind it up to a width. -/
def padEnd (size : Nat) (text : List Char) : List Char :=
  text ++ List.replicate (size - width text) ' '

/-- Text in the middle of a width; the odd blank goes behind it. -/
def centred (size : Nat) (text : List Char) : List Char :=
  let excess := size - width text
  List.replicate (excess / 2) ' ' ++ text ++ List.replicate (excess - excess / 2) ' '

/-- A cell of a framed table by its lines. -/
abbrev Cell := List (List Char)

def cellWidth (cell : Cell) : Nat :=
  (cell.map width).foldl max 0

/-- A frame line: two strokes with a joint between them and a corner on either side. -/
def frameLine (left joint right : Char) (first second : Nat) : List Char :=
  [left] ++ List.replicate (first + 2) '─' ++ [joint] ++ List.replicate (second + 2) '─' ++ [right]

/-- The lines of a row, as many as its higher cell has. -/
def rowLines (first second : Nat) (row : Cell × Cell) : List (List Char) :=
  (List.range (max row.1.length row.2.length)).map fun i =>
    "│ ".toList ++ padEnd first (row.1.getD i []) ++ " │ ".toList
      ++ padEnd second (row.2.getD i []) ++ " │".toList

def title : List Char := "Symbol Table".toList

/-- The rows of the framed table. A listing without entries says so. -/
def frameRows (all : List Entry) : List (Cell × Cell) :=
  if all.isEmpty then [(Terminal.lines "-", Terminal.lines "No symbols found")]
  else all.map fun (tag, fragment) => (Terminal.lines tag, Terminal.lines fragment)

def framed (all : List Entry) : String :=
  let header : Cell × Cell := (Terminal.lines "Tag", Terminal.lines "LaTeX")
  let rows := frameRows all
  let first := ((header :: rows).map fun row => cellWidth row.1).foldl max 0
  let second := ((header :: rows).map fun row => cellWidth row.2).foldl max 0
  let lines :=
    [centred (first + second + 7) title, frameLine '┌' '┬' '┐' first second]
      ++ rowLines first second header
      ++ [frameLine '├' '┼' '┤' first second]
      ++ rows.flatMap (rowLines first second)
      ++ [frameLine '└' '┴' '┘' first second]
  String.join (lines.map fun line => String.ofList (line ++ ['\n']))

end Listing
end FormulaTex
