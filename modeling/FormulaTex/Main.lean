import FormulaTex.CommandLine.Run

/-!
# The program

Looks at the files that the command line is about, at the working directory and at the standard
input, runs the command line, and shows its outcome.
-/

namespace FormulaTex
namespace Main

open CommandLine

/-- The result of an action, unless it fails. -/
def attempt {α : Type} (action : IO α) : IO (Option α) := do
  try
    return some (← action)
  catch _ =>
    return none

/-- What stands at a path: nothing, or something that may be read as a file, which a directory
may not. -/
def look (path : Path) : IO (Option (Option ByteArray)) := do
  match (← attempt (IO.FS.Handle.mk path.toText .read)) with
  | none => return none
  | some handle => return some (← attempt handle.readBinToEnd)

/-- Finds out about a path and everything above it. -/
def lookAround (directory : Path) (arguments : List String) : IO Files := do
  let mut files : Files := ⟨[], [directory]⟩
  for path in mentionedPaths directory arguments do
    for length in List.range path.length do
      let place := path.take (length + 1)
      match (← look place) with
      | some (some octets) =>
        files := { files with files := files.files ++ [(place, octets.toList)] }
      | some none =>
        files := { files with directories := files.directories ++ [place] }
      | none => pure ()
  return files

def readInput : IO StandardInput := do
  let stdin ← IO.getStdin
  if (← stdin.isTty) then return .terminal
  let mut octets := ByteArray.empty
  let mut chunk ← stdin.read 65536
  while !chunk.isEmpty do
    octets := octets ++ chunk
    chunk ← stdin.read 65536
  return .octets octets.toList

def save (path : Path) (text : String) : IO Unit := do
  IO.FS.createDirAll (Path.toText path.dropLast)
  IO.FS.writeFile path.toText text

def needsInput : Request → Bool
  | .render options => options.input.isNone
  | _ => false

def run (arguments : List String) : IO UInt32 := do
  let directory := Path.resolve [] (toString (← IO.currentDir))
  let files ← lookAround directory arguments
  let request := Request.read files directory arguments
  let input ← if needsInput request then readInput else pure .none
  let outcome := request.outcome { files, directory, input }
  if let some (path, text) := outcome.written then
    save path text
  IO.print (request.arriving (← (← IO.getStdout).isTty) outcome)
  IO.eprint outcome.errors
  if outcome.showsTrace then
    if let some failure := outcome.crash then
      IO.eprintln (failure.kind.name ++ ": " ++ failure.text)
  return UInt32.ofNat outcome.exitCode

end Main
end FormulaTex

def main (arguments : List String) : IO UInt32 :=
  FormulaTex.Main.run arguments
