import FormulaTex.CommandLine.Request

/-!
# Help

A page of help shows how a command is called, what it does, and what its arguments and switches are
for. Arguments that are refused are answered with the first of these and the reason.
-/

namespace FormulaTex
namespace CommandLine

/-- A term of a page and what it means. -/
structure Explanation where
  term : String
  meaning : String
deriving DecidableEq, Repr

structure Section where
  title : String
  explanations : List Explanation
deriving DecidableEq, Repr

/-- Explains a switch; `value` is what its value is called, or empty. -/
def Switch.explain (s : Switch) (value meaning : String) : Explanation :=
  let names := ", ".intercalate s.names
  ⟨if value.isEmpty then names else names ++ " " ++ value, meaning⟩

namespace Section

/-- The lines of a section, with the meanings below each other. -/
def lines (s : Section) : List String :=
  let size := (s.explanations.map fun e => e.term.length).foldl max 0
  s.title :: s.explanations.map fun e =>
    "  " ++ e.term ++ String.ofList (List.replicate (size - e.term.length + 2) ' ') ++ e.meaning

end Section

def programName : String := "mathsmith"

def version : String := "0.1.0"

namespace Page

/-- The words that call the command of a page. -/
def command : Page → String
  | program => programName
  | render => programName ++ " render"
  | symbols => programName ++ " symbols"

def usage (page : Page) : String :=
  let tail :=
    match page with
    | program => "[OPTIONS] COMMAND [ARGS]..."
    | render => "[OPTIONS] [INPUT]"
    | symbols => "[OPTIONS]"
  "Usage: " ++ page.command ++ " " ++ tail

def purpose : Page → String
  | program => "Render math expression trees into LaTeX."
  | render => "Render an expression tree document into LaTeX."
  | symbols => "List the symbol table used to translate atomic tags."

def helpEntry : Explanation :=
  helpSwitch.explain "" "Show this message and exit."

def settingsEntry : Explanation :=
  settingsSwitch.explain "FILE"
    "YAML file providing render settings (separator, max_depth, symbols...)."

def sections : Page → List Section
  | program => [
      ⟨"Options", [
        versionSwitch.explain "" "Show the installed version and exit.",
        installSwitch.explain "" "Install completion for the current shell.",
        completionSwitch.explain ""
          "Show completion for the current shell, to copy it or customize the installation.",
        helpEntry]⟩,
      ⟨"Commands", [
        ⟨"render", purpose .render⟩,
        ⟨"symbols", purpose .symbols⟩]⟩]
  | render => [
      ⟨"Options", [helpEntry]⟩,
      ⟨"Input Handling", [
        ⟨"[INPUT]", "Expression tree document (.json, .yaml or .yml). "
          ++ "The tree is read from standard input when omitted."⟩,
        formatSwitch.explain "TEXT"
          "Format of the tree read from standard input: json or yaml. [default: yaml]"]⟩,
      ⟨"Output", [
        outputSwitch.explain "FILE"
          "Write the LaTeX output to this file instead of standard output."]⟩,
      ⟨"Rendering", [
        settingsEntry,
        separatorSwitch.explain "TEXT"
          "Text inserted between sequence items (defaults to a single space).",
        depthSwitch.explain "INTEGER RANGE [x>=1]"
          "Maximum nesting depth accepted before rendering is aborted.",
        accentsSwitch.explain ""
          "Escape accented characters with legacy LaTeX macros instead of keeping Unicode."]⟩,
      ⟨"Diagnostics", [
        verboseSwitch.explain "INTEGER"
          "Increase CLI verbosity. Combine multiple times for additional diagnostics.",
        tracesSwitch.explain "" "Show full tracebacks when an unexpected error occurs."]⟩]
  | symbols => [
      ⟨"Options", [
        patternSwitch.explain "TEXT" "Only list tags containing this text (case-insensitive).",
        plainSwitch.explain "" "Print tab-separated rows instead of a table.",
        helpEntry]⟩,
      ⟨"Rendering", [settingsEntry]⟩]

def text (page : Page) : String :=
  let body := page.sections.flatMap fun s => "" :: s.lines
  String.join (([page.usage, "", page.purpose] ++ body).map (· ++ "\n"))

/-- What is told about arguments that are refused. -/
def refusal (page : Page) (fault : UsageFault) : String :=
  page.usage ++ "\nTry '" ++ page.command ++ " --help' for help.\n" ++ fault.message ++ "\n"

end Page

end CommandLine
end FormulaTex
