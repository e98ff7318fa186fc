import FormulaTex.Yaml.Fault
import FormulaTex.Yaml.Source

/-!
# Tokens of YAML

The words of a YAML document. Block collections are marked by tokens of their own, which come from
the indentation, and a key is marked in front even where only the colon behind it tells that it is
one. A token list ends with the end of the stream, or with the fault at which reading stopped.
-/

namespace FormulaTex
namespace Yaml

inductive Token where
  | version (major : Nat)
  | handle (name expansion : String)
  /-- A directive without a meaning here. -/
  | directive
  | documentStart
  | documentEnd
  | blockSequence
  | blockMapping
  | blockEnd
  | flowSequence
  | flowSequenceEnd
  | flowMapping
  | flowMappingEnd
  | entry
  | comma
  | key
  | value
  | alias (name : String)
  | anchor (name : String)
  | tag (handle : Option String) (suffix : String)
  | scalar (text : String) (isPlain : Bool)
  | streamEnd
  | broken (fault : Fault)
deriving DecidableEq, Repr

end Yaml
end FormulaTex
