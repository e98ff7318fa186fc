import FormulaTex.Document
import FormulaTex.Failure
import FormulaTex.Settings.File

/-!
# Failures of documents, settings and renderings

The report of every fault that reading a document, reading settings or rendering a tree may end in.
A document that is no JSON is reported together with the place where it breaks the grammar, and
where a value is missing, with the offset alone as the last line. What is said about a text that is
no YAML is up to the reader of YAML.
-/

namespace FormulaTex

open Failure

def valueFailure (text : String) : Failure :=
  .ofText (.other "ValueError") text

def exhaustion : Failure :=
  .ofText (.other "RecursionError") "maximum recursion depth exceeded"

def undecodable (octets : List UInt8) (fault : Text.Utf8.Fault) : Failure :=
  let last := fault.position + fault.length
  ⟨.worded "UnicodeDecodeError" fault.message,
    [.str "utf-8", .scalar (.bytes octets), .scalar (.int fault.position), .scalar (.int last),
      .str fault.reason.phrase], none, none⟩

def missingFile : Failure :=
  ⟨.worded "FileNotFoundError" "no such file", [], none, none⟩

/-- Failures by their names and texts, from a place on, each of them in the context of the next. -/
def Failures.inContext (place : Nat) : List (String × String) → Failures
  | [] => []
  | (name, text) :: rest =>
    let context := if rest.isEmpty then none else some (place + 1)
    ⟨.worded name text, [.str text], none, context⟩ :: inContext (place + 1) rest

/-- What is said about a text that is no YAML: the name and the text of the failure, and those of
the failures in whose context it arose. -/
structure Yaml.Words where
  name : String
  text : String
  origins : List (String × String)

namespace Yaml.Words

/-- No more is said than that the document is malformed. -/
def untold : Words := ⟨"YAMLError", "malformed document", []⟩

def failures (words : Words) (place : Nat) : Failures :=
  .inContext place ((words.name, words.text) :: words.origins)

end Yaml.Words

def Yaml.Fault.failures (words : Words) (fault : Fault) : Failures :=
  let named := fun name => [Failure.ofText (.other name) fault.message]
  match fault with
  | .malformed => words.failures 0
  | .number _ => named "ValueError"
  | .emptyNumber => named "IndexError"
  | .noTruth word => [⟨.lookup, [.str word], none, none⟩]
  | .noTimestamp => named "AttributeError"
  | .notText => named "TypeError"
  | .calendar _ => named "ValueError"
  | .codeOutOfRange => named "ValueError"
  | .codeTooLarge => named "OverflowError"
  | .tooDeep => [exhaustion]
  | .surrogate => named "UnicodeEncodeError"

namespace Json.Fault

def failure (fault : Fault) : Failure :=
  match fault with
  | .malformed _ _ => .ofText (.other "JSONDecodeError") fault.message
  | .longInteger _ => valueFailure fault.message
  | .tooDeep => exhaustion
  | .surrogate => .ofText (.other "UnicodeEncodeError") fault.message

/-- The failures behind a document that is no JSON. -/
def failures (fault : Fault) : Failures :=
  match fault with
  | .malformed .noValue position =>
    [{ fault.failure with context := some 2 },
      ⟨.other "StopIteration", [.scalar (.int position.offset)], none, none⟩]
  | fault => [fault.failure]

end Json.Fault

namespace Layout.Fault

def failure (fault : Fault) : Failure :=
  match fault with
  | .unorderedKeys _ => .ofText (.other "TypeError") fault.message
  | .integerTooLong => valueFailure fault.message
  | .endless => exhaustion
  | _ => .ofText .invalidNode fault.message

end Layout.Fault

namespace Document.Fault

def failures (words : Yaml.Words) (fault : Fault) : Failures :=
  match fault with
  | .notJson name cause =>
    { Failure.ofText .invalidNode (formatMessage name) with cause := some 1 } :: cause.failures
  | .notYaml _ =>
    { Failure.ofText .invalidNode fault.message with cause := some 1 } :: words.failures 1
  | .empty => [.ofText .invalidNode fault.message]
  | .jsonValue fault => [fault.failure]
  | .yamlValue fault => fault.failures words
  | .layout fault => [fault.failure]
  | .notText octets fault => [undecodable octets fault]
  | .missing => [missingFile]

end Document.Fault

namespace Settings

def Fault.failure (fault : Fault) : Failure :=
  match fault with
  | .notMapping => valueFailure fault.message
  | .invalid issues => ⟨.worded "ValidationError" (Issue.headline issues), [], none, none⟩

namespace FileFault

def failures (words : Yaml.Words) : FileFault → Failures
  | .missing => [missingFile]
  | .notText octets fault => [undecodable octets fault]
  | .yaml fault => fault.failures words
  | .settings fault => [fault.failure]

end FileFault

end Settings

namespace RenderFault

def failure (fault : RenderFault) : Failure :=
  match fault with
  | .tooDeep _ => .ofText .renderDepth fault.message
  | .unsupportedOperator _ _ => .ofText .unsupportedOperator fault.message
  | .unspellableOperator => valueFailure fault.message

end RenderFault

end FormulaTex
