import FormulaTex.Calendar
import FormulaTex.Number.Reading

/-!
# Faults of YAML documents

Everything that breaks the grammar of YAML, the use of anchors or the meaning of tags makes a
document malformed. The other faults are about values: a scalar with the tag of a number, a truth
value or a point in time whose text is none, and a character code that is no character. Collections
that are nested too deeply, or marks that go in a circle, exceed a limit.
-/

namespace FormulaTex
namespace Yaml

inductive Fault where
  | malformed
  | number (fault : Number.Fault)
  | emptyNumber
  | noTruth (word : String)
  | noTimestamp
  /-- A point in time is written as a collection. -/
  | notText
  | calendar (fault : Calendar.Fault)
  | codeOutOfRange
  | codeTooLarge
  | tooDeep
  /-- A text names a surrogate, for which no text has room. -/
  | surrogate
deriving DecidableEq, Repr

namespace Fault

def message : Fault → String
  | malformed => "malformed document"
  | number fault => fault.message
  | emptyNumber => "string index out of range"
  | noTruth word => Text.quoted word
  | noTimestamp => "'NoneType' object has no attribute 'groupdict'"
  | notText => "expected string or bytes-like object, got 'list'"
  | calendar fault => fault.message
  | codeOutOfRange => "chr() arg not in range(0x110000)"
  | codeTooLarge => "Python int too large to convert to C int"
  | tooDeep => "maximum recursion depth exceeded"
  | surrogate => "surrogates not allowed"

end Fault

end Yaml
end FormulaTex
