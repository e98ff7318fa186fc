import FormulaTex.CommandLine.Help
import FormulaTex.Console

/-!
# Endings of commands

A command succeeds with text, which it prints or writes to a file; refuses its arguments; reports
one message about its input; or is left by a failure that it does not deal with. What it remarked
on the way is shown first, as far as its console state asks for it. That a file was written is
remarked last, and a failure of this remark leaves the command with the file in its place.
-/

namespace FormulaTex
namespace CommandLine

open Diagnostics

inductive Ending where
  | printed (text : String)
  /-- A file is written, and a remark on it is made if one is asked for. -/
  | written (path : Path) (text : String) (remark : Option String)
  /-- A file is written, and the remark on it fails. -/
  | unannounced (path : Path) (text : String) (failures : Failures)
  | refused (page : Page) (fault : UsageFault)
  | reported (message : String) (failures : Failures)
  | left (failures : Failures)

/-- A command that has run: the state of its console, its remarks in order, and its ending. -/
structure Run where
  state : Console.State
  remarks : List Remark
  ending : Ending

/-- What is seen of a command from outside. A failure that left it is kept in `crash`. Traces are
not part of the text on the error stream; `showsTrace` tells that one stands at its end. -/
structure Outcome where
  exitCode : Nat
  output : String
  errors : String
  written : Option (Path × String)
  crash : Option Failure
  showsTrace : Bool

namespace Outcome

def ofAnswer (text : String) : Outcome :=
  ⟨0, text, "", none, none, false⟩

def ofRefusal (text : String) : Outcome :=
  ⟨2, "", text, none, none, false⟩

end Outcome

namespace Run

section

variable (display : Display) (state : Console.State)

def remarkText : Remark → String
  | .warning message => Console.message display state "warning" message []
  | .event name payload =>
    match Console.eventText state name payload with
    | some text => Console.message display state "info" text []
    | none => ""

/-- The remark that a file was written. -/
def writtenText (remark : Option String) : String :=
  match remark with
  | some text => Console.message display state "info" text []
  | none => ""

/-- Error messages about a failure. -/
def failureText (message : String) (failures : Failures) : String :=
  Console.message display state "error" message failures

/-- What is seen of a command that a failure has left, after some remarks. -/
def leave (remarks : String) (written : Option (Path × String)) (failures : Failures) : Outcome :=
  let text := (failures.head?.map Failure.text).getD ""
  if state.showsTraces then ⟨1, "", remarks, written, failures.head?, true⟩
  else
    ⟨1, "", remarks ++ failureText display state text failures, written, failures.head?, false⟩

end

def outcome (run : Run) (display : Display) : Outcome :=
  let remarks := String.join (run.remarks.map (remarkText display run.state))
  match run.ending with
  | .printed text => ⟨0, text, remarks, none, none, false⟩
  | .written path text remark =>
    ⟨0, "", remarks ++ writtenText display run.state remark, some (path, text), none, false⟩
  | .unannounced path text failures =>
    leave display run.state remarks (some (path, text)) failures
  | .refused page fault => ⟨2, "", remarks ++ page.refusal fault, none, none, false⟩
  | .reported message failures =>
    ⟨1, "", remarks ++ failureText display run.state message failures, none, none, false⟩
  | .left failures => leave display run.state remarks none failures

end Run

end CommandLine
end FormulaTex
