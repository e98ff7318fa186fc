/-!
# Arguments of a command line

Arguments are switches or stand on their own. A switch has a long name, and it may have a letter; a
value follows it or is attached to it. Letters may be given together, the last with a value. A lone
pair of hyphens ends the switches.
-/

namespace FormulaTex
namespace CommandLine

/-- A switch by all its names, hyphens included. The first name stands for it. -/
structure Switch where
  names : List String
  takesValue : Bool
deriving DecidableEq, Repr

namespace Switch

def name (s : Switch) : String :=
  s.names.headD ""

end Switch

/-- A switch as it was given: the name used and the value. -/
structure Given where
  switch : Switch
  used : String
  value : Option String
deriving DecidableEq, Repr

/-- Why arguments are refused. -/
inductive UsageFault where
  | unknownSwitch (name : String)
  | missingValue (name : String)
  | unexpectedValue (name : String)
  | extraArguments (arguments : List String)
  | missingCommand
  | unknownCommand (name : String)
  /-- A value that a parameter cannot take, and why. -/
  | badValue (parameter reason : String)
  | refused (reason : String)
deriving DecidableEq, Repr

namespace UsageFault

def message : UsageFault → String
  | unknownSwitch name => "No such option: " ++ name
  | missingValue name => "Option '" ++ name ++ "' requires an argument."
  | unexpectedValue name => "Option '" ++ name ++ "' does not take a value."
  | extraArguments [argument] => "Got unexpected extra argument (" ++ argument ++ ")"
  | extraArguments arguments =>
    "Got unexpected extra arguments (" ++ " ".intercalate arguments ++ ")"
  | missingCommand => "Missing command."
  | unknownCommand name => "No such command '" ++ name ++ "'."
  | badValue parameter reason => "Invalid value for " ++ parameter ++ ": " ++ reason
  | refused reason => "Invalid value: " ++ reason

end UsageFault

/-- Arguments taken apart. -/
structure Arguments where
  given : List Given
  positional : List String
deriving DecidableEq, Repr

namespace Arguments

def find? (switches : List Switch) (name : String) : Option Switch :=
  switches.find? fun s => s.names.contains name

def isLong (name : String) : Bool :=
  "--".toList.isPrefixOf name.toList

/-- The switches of one argument, and the last of them if it still needs a value. -/
structure Cluster where
  given : List Given
  open? : Option (Switch × String)

/-- Reads letters given together. -/
def readLetters (switches : List Switch) : List Char → Except UsageFault Cluster
  | [] => .ok ⟨[], none⟩
  | c :: rest =>
    let name := String.ofList ['-', c]
    match find? switches name with
    | none => .error (.unknownSwitch name)
    | some switch =>
      if switch.takesValue then
        if rest.isEmpty then .ok ⟨[], some (switch, name)⟩
        else .ok ⟨[⟨switch, name, some (String.ofList rest)⟩], none⟩
      else do
        let cluster ← readLetters switches rest
        return { cluster with given := ⟨switch, name, none⟩ :: cluster.given }

/-- An argument up to its first equals sign, and what follows the sign. -/
def splitValue (text : List Char) : List Char × Option (List Char) :=
  match text.dropWhile (· != '=') with
  | [] => (text, none)
  | _ :: value => (text.takeWhile (· != '='), some value)

/-- Reads an argument that starts with a hyphen. A name is tried as a whole first, whatever its
length, and then letter by letter unless it starts with two hyphens. -/
def readSwitch (switches : List Switch) (argument : String) : Except UsageFault Cluster :=
  let (whole, value) := splitValue argument.toList
  let name := String.ofList whole
  match (find? switches name).filter fun _ => isLong name with
  | some switch =>
    match switch.takesValue, value with
    | true, some value => .ok ⟨[⟨switch, name, some (String.ofList value)⟩], none⟩
    | true, none => .ok ⟨[], some (switch, name)⟩
    | false, some _ => .error (.unexpectedValue name)
    | false, none => .ok ⟨[⟨switch, name, none⟩], none⟩
  | none =>
    if isLong argument then .error (.unknownSwitch name)
    else readLetters switches (argument.toList.drop 1)

/-- Takes arguments apart. Unless switches may stand behind other arguments, the first argument that
is none ends them. -/
def read (switches : List Switch) (anywhere : Bool) :
    List String → Except UsageFault Arguments
  | [] => .ok ⟨[], []⟩
  | argument :: rest =>
    if argument = "--" then .ok ⟨[], rest⟩
    else if argument.toList.head? == some '-' && argument != "-" then
      match readSwitch switches argument with
      | .error fault => .error fault
      | .ok ⟨given, none⟩ => do
        let more ← read switches anywhere rest
        return { more with given := given ++ more.given }
      | .ok ⟨given, some (switch, name)⟩ =>
        match rest with
        | [] => .error (.missingValue name)
        | value :: rest => do
          let more ← read switches anywhere rest
          return { more with given := given ++ ⟨switch, name, some value⟩ :: more.given }
    else if anywhere then do
      let more ← read switches anywhere rest
      return { more with positional := argument :: more.positional }
    else .ok ⟨[], argument :: rest⟩

/-- The value of a switch; the last one given counts. -/
def value? (arguments : Arguments) (switch : Switch) : Option String :=
  (arguments.given.reverse.find? fun g => g.switch == switch).bind (·.value)

def count (arguments : Arguments) (switch : Switch) : Nat :=
  (arguments.given.filter fun g => g.switch == switch).length

def has (arguments : Arguments) (switch : Switch) : Bool :=
  arguments.given.any fun g => g.switch == switch

end Arguments

end CommandLine
end FormulaTex
