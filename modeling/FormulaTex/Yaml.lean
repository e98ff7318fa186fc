import FormulaTex.Yaml.Object
import FormulaTex.Yaml.Token.Scan

/-!
# YAML documents

Reading a document goes through its characters, its tokens, its nodes as they are written, the
graph that they make up and the objects that they stand for. A text without any document has no
value. A text with two documents is malformed.
-/

namespace FormulaTex
namespace Yaml

/-- The value of a document. -/
def read (text : List Char) : Except Fault Value :=
  match Source.ofText? text with
  | none => .error .malformed
  | some source => do
    match (← Node.ofTokens (Token.scan source)) with
    | none => return .null
    | some root =>
      let (n, graph) ← Graph.ofNode root
      graph.toValue n

end Yaml
end FormulaTex
