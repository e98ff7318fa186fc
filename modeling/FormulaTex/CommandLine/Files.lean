import FormulaTex.Failure

/-!
# Files around a command

The part of a file tree that a command looks at. Paths are given by the names on the way from the
root, without steps back. Writing a file makes the directories that are missing on the way to it,
which fails where a file stands in the way.
-/

namespace FormulaTex
namespace CommandLine

/-- The names on the way from the root. -/
abbrev Path := List String

namespace Path

def toText (path : Path) : String :=
  "/" ++ "/".intercalate path

/-- Follows the steps of a relative path. -/
def follow (path : Path) : List String → Path
  | [] => path
  | step :: steps =>
    if step = "" ∨ step = "." then follow path steps
    else if step = ".." then follow path.dropLast steps
    else follow (path ++ [step]) steps

/-- The path that a text stands for, seen from a directory. -/
def resolve (directory : Path) (text : String) : Path :=
  let steps := (Text.cutAt '/' text.toList).map String.ofList
  follow (if text.toList.head? = some '/' then [] else directory) steps

def fileName (path : Path) : String :=
  path.getLastD ""

end Path

structure Files where
  files : List (Path × List UInt8)
  directories : List Path

namespace Files

def file? (files : Files) (path : Path) : Option (List UInt8) :=
  files.files.lookup path

/-- A directory is listed as one or holds something that is listed. -/
def isDirectory (files : Files) (path : Path) : Bool :=
  path.isEmpty || files.directories.any (fun d => path.isPrefixOf d)
    || files.files.any fun (p, _) => path.isPrefixOf p && p != path

/-- A file stands where a directory is needed, above a path. -/
def isBlocked (files : Files) (path : Path) : Bool :=
  files.files.any fun (p, _) => p.isPrefixOf path && p != path

def failure (name : String) (number : Nat) (reason : String) (path : Path) : Failure :=
  ⟨.worded name ("[Errno " ++ toString number ++ "] " ++ reason ++ ": "
    ++ Text.quoted path.toText), [.scalar (.int number), .str reason], none, none⟩

/-- Whether a file can be written at a path, missing directories being made. -/
def checkWritable (files : Files) (path : Path) : Except Failure Unit :=
  let parent := path.dropLast
  if files.isDirectory parent then .ok ()
  else if (files.file? parent).isSome then
    .error (failure "FileExistsError" 17 "File exists" parent)
  else if files.isBlocked parent then
    .error (failure "NotADirectoryError" 20 "Not a directory" parent)
  else .ok ()

end Files

end CommandLine
end FormulaTex
