import FormulaTex.Text.Blank
import FormulaTex.Text.Width

/-!
# Text on a terminal

Characters that would ring, move the cursor back or feed the paper are left out, and tabs become
blanks up to the next of the stops that come every eight cells. The rows into which a line is then
broken to fit are up to the terminal. Text that is not laid out in this way goes to a terminal as it
is, and elsewhere without its style codes.
-/

namespace FormulaTex
namespace Text
namespace Terminal

/-- Bell, backspace, vertical tab, form feed and carriage return. -/
def isDropped (c : Char) : Bool :=
  [0x07, 0x08, 0x0B, 0x0C, 0x0D].contains c.toNat

def tabStop : Nat := 8

/-- Replaces the tabs of a line whose next character stands in a cell. A tab takes one blank at
least. -/
def expandTabs (cell : Nat) : List Char → List Char
  | [] => []
  | c :: rest =>
    if c = '\t' then
      let next := (cell / tabStop + 1) * tabStop
      List.replicate (next - cell) ' ' ++ expandTabs next rest
    else c :: expandTabs (cell + charWidth c) rest

/-- The lines of a text as they are shown. -/
def lines (text : String) : List (List Char) :=
  (cutAt '\n' (text.toList.filter fun c => !isDropped c)).map (expandTabs 0)

/-- The text that shows a message, with a line end behind every row. -/
def shown (rows : List Char → List (List Char)) (text : String) : String :=
  String.join (((lines text).flatMap rows).map fun row => String.ofList (row ++ ['\n']))

/-- A line in one row, however long it is, without the blanks at its end. -/
def oneRow (line : List Char) : List (List Char) :=
  [stripEnd line]

def escape : Char := '\x1b'

def isStyleParameter (c : Char) : Bool :=
  c == ';' || c == '?' || c.isDigit

/-- Whether a style code that has begun goes on with a character: an escape and a bracket come
first, and then parameters. -/
def continuesStyle (begun : List Char) (c : Char) : Bool :=
  match begun with
  | [] => c == escape
  | [_] => c == '['
  | _ => isStyleParameter c

/-- Whether a style code that has begun ends with a character, which is a letter. -/
def endsStyle (begun : List Char) (c : Char) : Bool :=
  decide (2 ≤ begun.length) && c.isAlpha

/-- Leaves out the style codes of a text behind the beginning of one. What only looks like the
beginning of a code stays. -/
def withoutStyles (begun : List Char) : List Char → List Char
  | [] => begun
  | c :: rest =>
    if continuesStyle begun c then withoutStyles (begun ++ [c]) rest
    else if endsStyle begun c then withoutStyles [] rest
    else if c = escape then begun ++ withoutStyles [escape] rest
    else begun ++ c :: withoutStyles [] rest

/-- What arrives of a text that is not laid out. -/
def echoed (isTerminal : Bool) (text : List Char) : List Char :=
  if isTerminal then text else withoutStyles [] text

end Terminal
end Text
end FormulaTex
