import FormulaTex.CommandLine.Ending
import FormulaTex.Failure.Reports
import FormulaTex.Listing
import FormulaTex.Renderer

/-!
# Commands

The command that renders a document takes its settings from a file and lays those of the command
line over them, reads a tree, renders it and prints or writes the text. The command that lists
symbols shows the table that belongs to the settings. Both see the files and the standard input
around them. Nothing else counts for what they answer but whether the system lets a file be written,
how messages are laid out, and the words of the reader of YAML.
-/

namespace FormulaTex
namespace CommandLine

open Diagnostics

inductive StandardInput where
  | none
  | terminal
  | octets (octets : List UInt8)

/-- What a command finds when it starts. The system may deny that a file is written, by a failure
that has a name and a text. -/
structure Surroundings where
  files : Files
  directory : Path
  input : StandardInput
  denied : Path → Option (String × String) := fun _ => none
  display : Display := .plain
  words : Yaml.Words := .untold

/-- Whether a file can be written at a path. -/
def Surroundings.checkWritable (around : Surroundings) (path : Path) : Except Failure Unit := do
  around.files.checkWritable path
  match around.denied path with
  | some (name, text) => .error ⟨.worded name text, [.str text], none, none⟩
  | none => .ok ()

/-- The settings in a file, or the defaults if none is named. -/
def fileSettings (files : Files) : Option Path → Except Settings.FileFault Settings
  | none => .ok {}
  | some path =>
    match files.file? path with
    | some octets => Settings.ofFile octets
    | none => .error .missing

/-- Whether the render command reports what is wrong with a file of settings. It does not report
documents that are no YAML, nor scalars that are no value at all. -/
def isReported : Settings.FileFault → Bool
  | .yaml fault =>
    match fault with
    | .number _ | .calendar _ | .codeOutOfRange => true
    | _ => false
  | _ => true

namespace RenderOptions

def formats : List String := ["json", "yaml"]

/-- The settings that the command line itself gives. -/
def overrides (options : RenderOptions) : List (String × Value) := [
  (Settings.Field.separator.name, (options.separator.map Value.str).getD .null),
  (Settings.Field.maxDepth.name,
    (options.maxDepth.map fun depth => .scalar (.int depth)).getD .null),
  (Settings.Field.legacyAccents.name,
    (options.legacyAccents.map fun accents => .scalar (.bool accents)).getD .null)]

def settingsInUse (options : RenderOptions) (files : Files) :
    Except Settings.FileFault Settings := do
  let base ← fileSettings files options.settings
  (base.merged options.overrides).mapError fun issues => .settings (.invalid issues)

/-- The tree of the input file, or else of the standard input. `none` if there is neither. -/
def tree? (options : RenderOptions) (around : Surroundings) :
    Option (Except Document.Fault Value) :=
  match options.input with
  | some path => some <|
    match around.files.file? path with
    | some octets => Document.ofFile path.fileName octets
    | none => .error .missing
  | none =>
    match around.input with
    | .octets octets => some <|
      match Text.Utf8.readText octets with
      | .ok text => Document.read options.format text
      | .error fault => .error (.notText octets fault)
    | _ => none

def state (options : RenderOptions) : Console.State :=
  ⟨options.verbosity, options.showsTraces⟩

/-- Failures of rendering are reported, others are not dealt with. -/
def endingOf (failures : Failures) : Ending :=
  match failures with
  | [] => .left []
  | failure :: _ =>
    if failure.kind.isRendering then .reported failure.text failures else .left failures

/-- The remark that a file was written, as it is marked up. The path is part of it as it is. -/
def announcement (path : Path) : String :=
  "Wrote LaTeX output to " ++ path.toText

/-- How the command ends with a file that is written. The remark on it is made on request. -/
def announce (options : RenderOptions) (display : Display) (path : Path) (text : String) :
    Ending :=
  if options.verbosity = 0 then .written path text none
  else
    match display.unmarked (announcement path) with
    | .ok remark => .written path text (some remark)
    | .error message => .unannounced path text [.ofText (.other "MarkupError") message]

/-- How the command ends with the text of a formula. -/
def finish (options : RenderOptions) (around : Surroundings) (latex : String) : Ending :=
  match options.output with
  | none => .printed (latex ++ "\n")
  | some path =>
    match around.checkWritable path with
    | .ok () => options.announce around.display path (latex ++ "\n")
    | .error failure => .left [failure]

/-- Renders a tree. With traces on, a rendering that fails is not dealt with. -/
def runTree (options : RenderOptions) (around : Surroundings) (settings : Settings)
    (tree : Value) : Run :=
  let draft := (Renderer.ofSettings settings).render tree
  let ending :=
    match draft.outcome with
    | .ok latex => options.finish around latex
    | .error fault =>
      if options.showsTraces then .left [fault.failure] else endingOf [fault.failure]
  ⟨options.state, draft.notes.map Remark.ofNote, ending⟩

def run (options : RenderOptions) (around : Surroundings) : Run :=
  let ended := fun ending => (⟨options.state, [], ending⟩ : Run)
  if options.format ∉ formats then
    ended (.refused .render (.refused ("Unsupported format '" ++ options.format
      ++ "', expected one of: " ++ ", ".intercalate formats ++ ".")))
  else
    match options.settingsInUse around.files with
    | .error fault =>
      let failures := fault.failures around.words
      ended <|
        if isReported fault then
          .reported ("Invalid render configuration: " ++ (Failures.hint failures).getD "None")
            failures
        else .left failures
    | .ok settings =>
      match options.tree? around with
      | none =>
        ended (.refused .render
          (.refused "Provide an INPUT document or pipe a tree on standard input."))
      | some (.error fault) => ended (endingOf (fault.failures around.words))
      | some (.ok tree) => options.runTree around settings tree

end RenderOptions

namespace SymbolsOptions

/-- The entries that are listed. An empty pattern restricts nothing. -/
def listed (options : SymbolsOptions) (settings : Settings) : List Listing.Entry :=
  let all := Listing.entries settings.table
  match options.pattern with
  | some pattern => if pattern.isEmpty then all else Listing.matching pattern all
  | none => all

def run (options : SymbolsOptions) (around : Surroundings) : Run :=
  let ending :=
    match fileSettings around.files options.settings with
    | .error fault => Ending.left (fault.failures around.words)
    | .ok settings =>
      let entries := options.listed settings
      .printed (if options.isPlain then Listing.plain entries else Listing.framed entries)
  ⟨{}, [], ending⟩

end SymbolsOptions

/-- Answers a request. -/
def Request.outcome (around : Surroundings) : Request → Outcome
  | version => .ofAnswer (CommandLine.version ++ "\n")
  | help page => .ofAnswer page.text
  | nothing => .ofRefusal Page.program.text
  | refuse page fault => .ofRefusal (page.refusal fault)
  | render options => (options.run around).outcome around.display
  | symbols options => (options.run around).outcome around.display

/-- Whether the answer is laid out for reading. -/
def Request.isLaidOut : Request → Bool
  | symbols options => !options.isPlain
  | _ => false

/-- The output as it arrives, at a terminal or elsewhere. -/
def Request.arriving (isTerminal : Bool) (seen : Outcome) (request : Request) : String :=
  if request.isLaidOut then seen.output
  else String.ofList (Text.Terminal.echoed isTerminal seen.output.toList)

/-- Runs a command line. -/
def outcome (around : Surroundings) (arguments : List String) : Outcome :=
  (Request.read around.files around.directory arguments).outcome around

/-- The output of a command line as it arrives, at a terminal or elsewhere. -/
def output (isTerminal : Bool) (around : Surroundings) (arguments : List String) : String :=
  (Request.read around.files around.directory arguments).arriving isTerminal
    (outcome around arguments)

end CommandLine
end FormulaTex
