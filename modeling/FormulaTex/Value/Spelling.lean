import FormulaTex.Value
import FormulaTex.Number.Reading
import FormulaTex.Text.Quoted

/-!
# The spelling of values

How a value is written inside a message. Texts are quoted, collections are bracketed with their
members separated by a comma and a space, and nodes are spelled as their constructor with named
fields. Integers beyond the digit limit have no spelling; `isSpellable` tells the values that hold
none.
-/

namespace FormulaTex

open Text

def boolText (b : Bool) : String :=
  if b then "True" else "False"

namespace Scalar

def spelled : Scalar → String
  | null => "None"
  | bool b => boolText b
  | int n => toString n
  | float x => x.toText
  | str text => quoted text
  | bytes octets => quotedBytes octets
  | date d => d.spelled
  | dateTime t => t.spelled

/-- The plain text of a scalar: its spelling, but for texts and calendar values. -/
def toText : Scalar → String
  | str text => text
  | date d => d.toText
  | dateTime t => t.toText
  | s => s.spelled

def isSpellable : Scalar → Bool
  | int n => Number.isWritable n
  | _ => true

end Scalar

def optionSpelled (text : Option String) : String :=
  match text with
  | none => "None"
  | some text => quoted text

def symbolSpelled (tag : Tag) : String :=
  "Symbol(tag=" ++ optionSpelled tag ++ ")"

def delimiterSpelled (delimiter : Option Tag) : String :=
  match delimiter with
  | none => "None"
  | some tag => symbolSpelled tag

/-- A tuple of one member keeps a comma, which tells it from a bracketed value. -/
def tupleSpelled (count : Nat) (members : String) : String :=
  "(" ++ members ++ (if count = 1 then ",)" else ")")

def sequenceSpelled (count : Nat) (members : String) (separator : Option String) : String :=
  "Sequence(items=" ++ tupleSpelled count members ++ ", separator=" ++ optionSpelled separator
    ++ ")"

def setSpelled (members : List Scalar) : String :=
  if members.isEmpty then "set()"
  else "\x7b" ++ ", ".intercalate (members.map Scalar.spelled) ++ "\x7d"

namespace Value

mutual

def spelled : Value → String
  | .scalar s => s.spelled
  | .list _ items => "[" ++ spelledItems items ++ "]"
  | .tuple items => tupleSpelled items.length (spelledItems items)
  | .set members => setSpelled members
  | .map _ entries => "\x7b" ++ spelledEntries entries ++ "\x7d"
  | .cycle _ .list => "[...]"
  | .cycle _ .map => "\x7b...\x7d"
  | .literal text => "Literal(text=" ++ quoted text ++ ")"
  | .symbol tag => symbolSpelled tag
  | .rawText text => "RawText(text=" ++ quoted text ++ ")"
  | .sequence items separator => sequenceSpelled items.length (spelledItems items) separator
  | .textRun content => "TextRun(content=" ++ quoted content ++ ")"
  | .parenthesized inner left right =>
    "Parenthesized(inner=" ++ inner.spelled ++ ", left=" ++ delimiterSpelled left
      ++ ", right=" ++ delimiterSpelled right ++ ")"
  | .subSup base sub sup =>
    "SubSup(base=" ++ base.spelled ++ ", sub=" ++ sub.spelled ++ ", sup=" ++ sup.spelled ++ ")"
  | .unary operator operand =>
    "UnaryOp(operator=" ++ operator.spelled ++ ", operand=" ++ operand.spelled ++ ")"
  | .binary operator left right =>
    "BinaryOp(operator=" ++ operator.spelled ++ ", left=" ++ left.spelled
      ++ ", right=" ++ right.spelled ++ ")"
  | .matrix rows left right =>
    "Matrix(rows=" ++ tupleSpelled rows.length (spelledRows rows) ++ ", left="
      ++ delimiterSpelled left ++ ", right=" ++ delimiterSpelled right ++ ")"

def spelledItems : List Value → String
  | [] => ""
  | [item] => item.spelled
  | item :: items => item.spelled ++ ", " ++ spelledItems items

def spelledEntries : List (Scalar × Value) → String
  | [] => ""
  | [(key, item)] => key.spelled ++ ": " ++ item.spelled
  | (key, item) :: entries => key.spelled ++ ": " ++ item.spelled ++ ", " ++ spelledEntries entries

def spelledRows : List (Row Value) → String
  | [] => ""
  | [⟨cells, separator⟩] => sequenceSpelled cells.length (spelledItems cells) separator
  | ⟨cells, separator⟩ :: rows =>
    sequenceSpelled cells.length (spelledItems cells) separator ++ ", " ++ spelledRows rows

end

/-- The plain text of a value. Only scalars differ from their spelling. -/
def toText : Value → String
  | .scalar s => s.toText
  | v => v.spelled

mutual

/-- No integer in the value is beyond the digit limit. -/
def isSpellable : Value → Bool
  | .scalar s => s.isSpellable
  | .list _ items => allSpellable items
  | .tuple items => allSpellable items
  | .set members => members.all Scalar.isSpellable
  | .map _ entries => entriesSpellable entries
  | .cycle .. => true
  | .literal _ => true
  | .symbol _ => true
  | .rawText _ => true
  | .sequence items _ => allSpellable items
  | .textRun _ => true
  | .parenthesized inner _ _ => inner.isSpellable
  | .subSup base sub sup => base.isSpellable && sub.isSpellable && sup.isSpellable
  | .unary operator operand => operator.isSpellable && operand.isSpellable
  | .binary operator left right =>
    operator.isSpellable && left.isSpellable && right.isSpellable
  | .matrix rows _ _ => rowsSpellable rows

def allSpellable : List Value → Bool
  | [] => true
  | item :: items => item.isSpellable && allSpellable items

def entriesSpellable : List (Scalar × Value) → Bool
  | [] => true
  | (key, item) :: entries => key.isSpellable && item.isSpellable && entriesSpellable entries

def rowsSpellable : List (Row Value) → Bool
  | [] => true
  | ⟨cells, _⟩ :: rows => allSpellable cells && rowsSpellable rows

end

/-- Values that count as false where a tag is asked for: null, false, zero and whatever is
empty. -/
def isFalsy : Value → Bool
  | .scalar .null => true
  | .scalar (.bool b) => !b
  | .scalar (.int n) => n == 0
  | .scalar (.float x) => x.equalsInt 0
  | .scalar (.str text) => text.isEmpty
  | .scalar (.bytes octets) => octets.isEmpty
  | .list _ items => items.isEmpty
  | .tuple items => items.isEmpty
  | .set members => members.isEmpty
  | .map _ entries => entries.isEmpty
  | .sequence items _ => items.isEmpty
  | _ => false

end Value

end FormulaTex
