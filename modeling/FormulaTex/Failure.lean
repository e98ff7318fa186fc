import FormulaTex.Draft
import FormulaTex.Text.Blank

/-!
# Failures

A failure has a kind and arguments, which together give its text. It may have a failure that caused
it, and one that was being dealt with when it arose. The failures behind one failure form a graph,
which may have cycles; reports follow it from failure to cause, or to context where there is no
cause, and stop in front of a failure that they have met already.
-/

namespace FormulaTex

open Text

namespace Failure

inductive Kind where
  /-- A tree that cannot be rendered, for no special reason. -/
  | rendering
  | invalidNode
  | unsupportedOperator
  | renderDepth
  /-- A key that is not there; the text of the failure quotes it. -/
  | lookup
  | other (name : String)
  /-- A kind whose text does not come from its arguments. -/
  | worded (name text : String)
deriving DecidableEq, Repr

namespace Kind

def name : Kind → String
  | rendering => "MathRenderingError"
  | invalidNode => "InvalidNodeError"
  | unsupportedOperator => "UnsupportedOperatorError"
  | renderDepth => "RenderDepthError"
  | lookup => "KeyError"
  | other name => name
  | worded name _ => name

def ofName (name : String) : Kind :=
  (([rendering, invalidNode, unsupportedOperator, renderDepth, lookup].find?
    fun kind => kind.name == name)).getD (other name)

/-- Whether the failure is one of rendering, of whatever special kind. -/
def isRendering : Kind → Bool
  | rendering | invalidNode | unsupportedOperator | renderDepth => true
  | _ => false

end Kind

end Failure

/-- Causes and contexts are given by their place among the failures of a report. A failure that
counts as false when it is tested is no cause of another, so none is given. -/
structure Failure where
  kind : Failure.Kind
  arguments : List Value
  cause : Option Nat
  context : Option Nat

namespace Failure

/-- A failure of a kind. Two kinds make up their text from what they are given and keep that as
their only argument. -/
def make (kind : Kind) (arguments : List Value) (cause context : Option Nat) : Failure :=
  let arguments :=
    match kind, arguments with
    | .unsupportedOperator, [operator, arity] =>
      [.str (RenderFault.operatorMessage arity.toText operator.spelled)]
    | .renderDepth, [limit] => [.str (RenderFault.depthMessage limit.toText)]
    | _, arguments => arguments
  ⟨kind, arguments, cause, context⟩

/-- A failure on its own that has a text. -/
def ofText (kind : Kind) (text : String) : Failure :=
  ⟨kind, [.str text], none, none⟩

/-- One argument is the text itself, several are spelled as a tuple. -/
def text (failure : Failure) : String :=
  match failure.kind, failure.arguments with
  | .worded _ text, _ => text
  | _, [] => ""
  | .lookup, [argument] => argument.spelled
  | _, [argument] => argument.toText
  | _, arguments => (Value.tuple arguments).spelled

/-- The constructor form of a failure. -/
def spelled (failure : Failure) : String :=
  failure.kind.name ++ "(" ++ Value.spelledItems failure.arguments ++ ")"

/-- What a report names next. -/
def next? (failure : Failure) : Option Nat :=
  failure.cause.or failure.context

/-- The first line of a text without the blanks around it, unless nothing is left of it. -/
def firstLine? (text : String) : Option String :=
  let line := strip (firstLine (strip text.toList))
  if line.isEmpty then none else some (String.ofList line)

end Failure

/-- Failures that refer to each other. A report starts with the first of them. -/
abbrev Failures := List Failure

namespace Failures

/-- The failures on the way from a place, each once. The number of failures bounds the number of
steps. -/
def pathFrom (failures : Failures) : Nat → List Nat → Nat → List Nat
  | 0, _, _ => []
  | steps + 1, visited, place =>
    if visited.contains place then []
    else
      match failures[place]? with
      | none => []
      | some failure =>
        place :: (match failure.next? with
          | none => []
          | some next => pathFrom failures steps (place :: visited) next)

def path (failures : Failures) : List Nat :=
  pathFrom failures failures.length [] 0

/-- The failures of a report, in order. -/
def chain (failures : Failures) : List Failure :=
  failures.path.filterMap fun place => failures[place]?

/-- One line for every failure of the report that has a text. -/
def messages (failures : Failures) : List String :=
  failures.chain.filterMap fun failure => Failure.firstLine? failure.text

/-- The message closest to the root of the trouble. -/
def hint (failures : Failures) : Option String :=
  failures.messages.getLast?

end Failures

end FormulaTex
