import FormulaTex.CommandLine.Arguments
import FormulaTex.CommandLine.Files
import FormulaTex.Number.Reading

/-!
# Requests

What a command line asks for: the version, a page of help, the rendering of a document or the
listing of the symbol table. Files that are read have to be there, and a depth has to be an integer
that is at least one.
-/

namespace FormulaTex
namespace CommandLine

/-- The pages of help: for the whole program and for its two commands. -/
inductive Page where
  | program
  | render
  | symbols
deriving DecidableEq, Repr

structure RenderOptions where
  input : Option Path := none
  output : Option Path := none
  format : String := "yaml"
  settings : Option Path := none
  separator : Option String := none
  maxDepth : Option Nat := none
  legacyAccents : Option Bool := none
  verbosity : Nat := 0
  showsTraces : Bool := false
deriving DecidableEq, Repr

structure SymbolsOptions where
  pattern : Option String := none
  settings : Option Path := none
  isPlain : Bool := false
deriving DecidableEq, Repr

inductive Request where
  | version
  | help (page : Page)
  /-- No arguments at all: help, but not as an answer. -/
  | nothing
  | refuse (page : Page) (fault : UsageFault)
  | render (options : RenderOptions)
  | symbols (options : SymbolsOptions)
deriving DecidableEq, Repr

def helpSwitch : Switch := ⟨["--help"], false⟩
def versionSwitch : Switch := ⟨["--version"], false⟩
def installSwitch : Switch := ⟨["--install-completion"], false⟩
def completionSwitch : Switch := ⟨["--show-completion"], false⟩
def settingsSwitch : Switch := ⟨["--config", "-c"], true⟩
def outputSwitch : Switch := ⟨["--output", "-o"], true⟩
def formatSwitch : Switch := ⟨["--format", "-f"], true⟩
def separatorSwitch : Switch := ⟨["--separator"], true⟩
def depthSwitch : Switch := ⟨["--max-depth"], true⟩
def accentsSwitch : Switch := ⟨["--legacy-accents", "--unicode-accents"], false⟩
def verboseSwitch : Switch := ⟨["--verbose", "-v"], false⟩
def tracesSwitch : Switch := ⟨["--debug"], false⟩
def patternSwitch : Switch := ⟨["--filter"], true⟩
def plainSwitch : Switch := ⟨["--plain"], false⟩

def programSwitches : List Switch :=
  [versionSwitch, installSwitch, completionSwitch, helpSwitch]

def renderSwitches : List Switch := [
  outputSwitch, formatSwitch, settingsSwitch, separatorSwitch, depthSwitch, accentsSwitch,
  verboseSwitch, tracesSwitch, helpSwitch]

def symbolsSwitches : List Switch :=
  [patternSwitch, settingsSwitch, plainSwitch, helpSwitch]

/-- A file that has to be there. -/
def readableFile (files : Files) (directory : Path) (parameter text : String) :
    Except UsageFault Path :=
  let path := Path.resolve directory text
  let fault := fun reason => Except.error (UsageFault.badValue parameter
    ("File '" ++ text ++ "' " ++ reason))
  if files.isDirectory path then fault "is a directory."
  else if (files.file? path).isSome then .ok path
  else fault "does not exist."

/-- A file to write, which may not be there yet. -/
def writableFile (files : Files) (directory : Path) (parameter text : String) :
    Except UsageFault Path :=
  let path := Path.resolve directory text
  if files.isDirectory path then
    .error (.badValue parameter ("File '" ++ text ++ "' is a directory."))
  else .ok path

def readDepth (text : String) : Except UsageFault Nat :=
  match Number.readInt 10 text.toList with
  | .error _ =>
    .error (.badValue "'--max-depth'" (Text.quoted text ++ " is not a valid integer range."))
  | .ok n =>
    if n < 1 then
      .error (.badValue "'--max-depth'" (toString n ++ " is not in the range x>=1."))
    else .ok n.toNat

/-- The accents asked for by the last of the two names of their switch. -/
def readAccents (arguments : Arguments) : Option Bool :=
  ((arguments.given.reverse.find? fun g => g.switch == accentsSwitch)).map
    fun g => g.used == accentsSwitch.name

/-- Refuses arguments on their own beyond the number that a command takes. -/
def checkCount (positional : List String) (most : Nat) : Except UsageFault Unit :=
  if positional.length ≤ most then .ok () else .error (.extraArguments (positional.drop most))

def mapGiven {α : Type} (value : Option String) (read : String → Except UsageFault α) :
    Except UsageFault (Option α) :=
  match value with
  | none => .ok none
  | some text => (read text).map some

def readRender (files : Files) (directory : Path) (arguments : Arguments) :
    Except UsageFault RenderOptions := do
  let input ← mapGiven arguments.positional.head? (readableFile files directory "'[INPUT]'")
  let output ← mapGiven (arguments.value? outputSwitch)
    (writableFile files directory "'--output' / '-o'")
  let settings ← mapGiven (arguments.value? settingsSwitch)
    (readableFile files directory "'--config' / '-c'")
  let maxDepth ← mapGiven (arguments.value? depthSwitch) readDepth
  checkCount arguments.positional 1
  return {
    input, output, settings, maxDepth
    format := (arguments.value? formatSwitch).getD "yaml"
    separator := arguments.value? separatorSwitch
    legacyAccents := readAccents arguments
    verbosity := arguments.count verboseSwitch
    showsTraces := arguments.has tracesSwitch }

def readSymbols (files : Files) (directory : Path) (arguments : Arguments) :
    Except UsageFault SymbolsOptions := do
  let settings ← mapGiven (arguments.value? settingsSwitch)
    (readableFile files directory "'--config' / '-c'")
  checkCount arguments.positional 0
  return {
    settings
    pattern := arguments.value? patternSwitch
    isPlain := arguments.has plainSwitch }

/-- Help goes before everything but a fault in the arguments themselves. -/
def readCommand (page : Page) (switches : List Switch) (arguments : List String)
    (read : Arguments → Except UsageFault Request) : Request :=
  match Arguments.read switches true arguments with
  | .error fault => .refuse page fault
  | .ok arguments =>
    if arguments.has helpSwitch then .help page
    else
      match read arguments with
      | .ok request => request
      | .error fault => .refuse page fault

/-- Version and help, whichever was given first. -/
def answerFirst? (arguments : Arguments) : Option Request :=
  (arguments.given.find? fun g => g.switch == versionSwitch || g.switch == helpSwitch).map
    fun g => if g.switch == versionSwitch then .version else .help .program

/-- A name that looks like a switch, although it stands where a command is expected. -/
def looksLikeSwitch (name : String) : Bool :=
  match name.toList with
  | [] => false
  | c :: _ => !c.isAlphanum && decide (c.toNat < 0x80)

/-- What to do with a name that is no command. Answers that it may ask for as a switch are given
all the same. -/
def readUnknown (name : String) (rest : List String) : Request :=
  let fault := Request.refuse .program (.unknownCommand name)
  if looksLikeSwitch name then
    match Arguments.read programSwitches false (name :: rest) with
    | .error fault => .refuse .program fault
    | .ok arguments => (answerFirst? arguments).getD fault
  else fault

/-- Reads a command line, seen from a directory. -/
def Request.read (files : Files) (directory : Path) (arguments : List String) : Request :=
  if arguments.isEmpty then .nothing
  else
    match Arguments.read programSwitches false arguments with
    | .error fault => .refuse .program fault
    | .ok arguments =>
      match answerFirst? arguments, arguments.positional with
      | some answer, _ => answer
      | none, [] => .refuse .program .missingCommand
      | none, "render" :: rest =>
        readCommand .render renderSwitches rest fun arguments =>
          (readRender files directory arguments).map .render
      | none, "symbols" :: rest =>
        readCommand .symbols symbolsSwitches rest fun arguments =>
          (readSymbols files directory arguments).map .symbols
      | none, name :: rest => readUnknown name rest

/-- The paths that a command line may be about, whatever its command. -/
def mentionedPaths (directory : Path) (arguments : List String) : List Path :=
  match Arguments.read programSwitches false arguments with
  | .ok ⟨_, _ :: rest⟩ =>
    [renderSwitches, symbolsSwitches].flatMap fun switches =>
      match Arguments.read switches true rest with
      | .ok arguments =>
        (arguments.positional ++ arguments.given.filterMap (·.value)).map
          (Path.resolve directory)
      | .error _ => []
  | _ => []

end CommandLine
end FormulaTex
