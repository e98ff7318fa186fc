import FormulaTex.Value.Equality
import FormulaTex.Value.Spelling

/-!
# Faults of a layout

Why data is not the layout of an expression tree. Most faults are about a shape that no node has.
The last three are about data for which no such message can be given: keys without an order, an
integer too long to be written, and a collection that contains itself.
-/

namespace FormulaTex
namespace Layout

inductive Fault where
  | notSymbol (field : String) (value : Value)
  | missingField (kind field : String)
  | noKind (keys : List Scalar)
  | unknownKind (kind : Value)
  | textContent
  | sequenceItems
  | sequenceSeparator
  | matrixRows
  | truthValue (b : Bool)
  | noNode (typeName : String)
  | unorderedKeys (fault : OrderFault)
  | integerTooLong
  | endless

namespace Fault

def message : Fault → String
  | notSymbol field value =>
    "Field '" ++ field ++ "' must be a symbol tag, got " ++ value.spelled
  | missingField kind field => "'" ++ kind ++ "' node is missing the '" ++ field ++ "' field"
  | noKind keys =>
    "Cannot determine node type for mapping with keys ["
      ++ ", ".intercalate (keys.map Scalar.spelled) ++ "]"
  | unknownKind kind => "Unknown node type '" ++ kind.toText ++ "'"
  | textContent => "'text' node requires a string 'c' field"
  | sequenceItems => "'seq' node requires a list of items"
  | sequenceSeparator => "'seq' separator must be a string"
  | matrixRows => "'matrix' node requires a list of rows"
  | truthValue b => "Cannot convert boolean " ++ boolText b ++ " into a node"
  | noNode typeName => "Cannot convert " ++ typeName ++ " into a node"
  | unorderedKeys fault => fault.message
  | integerTooLong => Number.Fault.tooLongToWrite.message
  | endless => "maximum recursion depth exceeded"

/-- A fault that names a value, if the value can be named. -/
def naming (value : Value) (fault : Fault) : Fault :=
  if value.isSpellable then fault else integerTooLong

/-- The fault of a mapping that tells no kind of node. Its keys are named in their order. -/
def ofKeys (keys : List Scalar) : Fault :=
  match KeyOrder.sort keys with
  | .error fault => unorderedKeys fault
  | .ok keys => if keys.all Scalar.isSpellable then noKind keys else integerTooLong

end Fault

end Layout
end FormulaTex
