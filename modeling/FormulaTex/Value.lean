import FormulaTex.Calendar
import FormulaTex.Number.Double

/-!
# Values

A value is what stands at one place of a document or of an expression tree: a scalar, a collection
of values, or a node of an expression. Nodes and plain data share one type because they mix. A
tree may hold a number where a node is expected, an operator may be any value, and a document may
hold nodes that were built before it is read.

A child that is left out is the null scalar.

A collection may contain itself. It then has a label, and inside it a cycle with the label stands
for the collection again.
-/

namespace FormulaTex

/-- The name of a symbol. There is one nameless symbol, which stands for a delimiter that is left
out. -/
abbrev Tag := Option String

/-- Data without parts. Only scalars are keys of a mapping. -/
inductive Scalar where
  | null
  | bool (b : Bool)
  | int (n : Int)
  | float (x : Double)
  | str (text : String)
  | bytes (octets : List UInt8)
  | date (d : Date)
  | dateTime (t : DateTime)
deriving DecidableEq, Repr

inductive Shape where
  | list
  | map
deriving DecidableEq, Repr

/-- A row of a matrix. -/
structure Row (α : Type) where
  cells : List α
  separator : Option String

/-- The constructors from `literal` on are the nodes of expression trees. Only collections that
contain themselves have a label. A `cycle` stands for the collection around it with that label. -/
inductive Value where
  | scalar (s : Scalar)
  | list (label : Option Nat) (items : List Value)
  | tuple (items : List Value)
  | set (members : List Scalar)
  | map (label : Option Nat) (entries : List (Scalar × Value))
  | cycle (label : Nat) (shape : Shape)
  | literal (text : String)
  | symbol (tag : Tag)
  | rawText (text : String)
  | sequence (items : List Value) (separator : Option String)
  | textRun (content : String)
  | parenthesized (inner : Value) (left right : Option Tag)
  | subSup (base sub sup : Value)
  | unary (operator operand : Value)
  | binary (operator left right : Value)
  | matrix (rows : List (Row Value)) (left right : Option Tag)

namespace Value

@[match_pattern] abbrev null : Value := .scalar .null

@[match_pattern] abbrev str (text : String) : Value := .scalar (.str text)

instance : Inhabited Value := ⟨null⟩

/-- Raw text is an operator only; it is no node of its own. -/
def isNode : Value → Bool
  | .literal _ | .symbol _ | .sequence .. | .textRun _ | .parenthesized .. | .subSup ..
  | .unary .. | .binary .. | .matrix .. => true
  | _ => false

/-- Nodes that always stand in a brace group when they are an argument. -/
def isStructured : Value → Bool
  | .sequence .. | .textRun _ | .parenthesized .. | .subSup .. | .unary .. | .binary ..
  | .matrix .. => true
  | _ => false

/-- Whether an argument stands in a brace group. The truth value asks for one as well, although it
is no node and leaves the group empty. -/
def isGrouped : Value → Bool
  | .scalar (.bool b) => b
  | v => v.isStructured

def isNull : Value → Bool
  | .null => true
  | _ => false

end Value

namespace Scalar

/-- The name of a scalar's type, as messages give it. -/
def typeName : Scalar → String
  | null => "NoneType"
  | bool _ => "bool"
  | int _ => "int"
  | float _ => "float"
  | str _ => "str"
  | bytes _ => "bytes"
  | date _ => "date"
  | dateTime _ => "datetime"

end Scalar

namespace Value

def typeName : Value → String
  | .scalar s => s.typeName
  | .list .. => "list"
  | .tuple _ => "tuple"
  | .set _ => "set"
  | .map .. => "dict"
  | .cycle _ .list => "list"
  | .cycle _ .map => "dict"
  | .literal _ => "Literal"
  | .symbol _ => "Symbol"
  | .rawText _ => "RawText"
  | .sequence .. => "Sequence"
  | .textRun _ => "TextRun"
  | .parenthesized .. => "Parenthesized"
  | .subSup .. => "SubSup"
  | .unary .. => "UnaryOp"
  | .binary .. => "BinaryOp"
  | .matrix .. => "Matrix"

end Value

end FormulaTex
