import FormulaTex.Json
import FormulaTex.Layout
import FormulaTex.Yaml
import FormulaTex.Text.UpperCase
import FormulaTex.Text.Utf8

/-!
# Documents of trees

An expression tree as a document, in JSON or in YAML. A document holds data, and the data lays out
the tree. The format of a file goes by its name.
-/

namespace FormulaTex
namespace Document

inductive Format where
  | json
  | yaml
deriving DecidableEq, Repr

/-- A format by its exact name. Everything but JSON is YAML. -/
def Format.ofName (name : String) : Format :=
  if name = "json" then .json else .yaml

inductive Fault where
  /-- The text breaks the grammar of JSON. -/
  | notJson (name : String) (fault : Json.Fault)
  /-- The text breaks the grammar of YAML. -/
  | notYaml (name : String)
  | empty
  /-- The grammar is kept, but some value has no meaning or a limit is exceeded. -/
  | jsonValue (fault : Json.Fault)
  | yamlValue (fault : Yaml.Fault)
  | layout (fault : Layout.Fault)
  | notText (octets : List UInt8) (fault : Text.Utf8.Fault)
  | missing

namespace Fault

/-- The message of a text that is no document of a format, which is named in capitals. -/
def formatMessage (name : String) : String :=
  "Unable to parse " ++ String.ofList (Text.upper name.toList) ++ " tree document"

def message : Fault → String
  | notJson name _ => formatMessage name
  | notYaml name => formatMessage name
  | empty => "Tree document is empty"
  | jsonValue fault => fault.message
  | yamlValue fault => fault.message
  | layout fault => fault.message
  | notText _ fault => fault.message
  | missing => "no such file"

end Fault

/-- The data in a document; `name` is the name of the format as it was given. -/
def readData (name text : String) : Except Fault Value :=
  match Format.ofName name with
  | .json =>
    (Json.read text.toList).mapError fun fault =>
      match fault with
      | .malformed _ _ => .notJson name fault
      | fault => .jsonValue fault
  | .yaml =>
    (Yaml.read text.toList).mapError fun fault =>
      match fault with
      | .malformed => .notYaml name
      | fault => .yamlValue fault

/-- The tree in a document. -/
def read (name text : String) : Except Fault Value := do
  match (← readData name text) with
  | .null => .error .empty
  | data => (Layout.read data).mapError .layout

/-- What follows the last dot of a file name, the dot included. A dot at either end of the name
does not count. -/
def suffix (fileName : List Char) : List Char :=
  let ending := (fileName.reverse.takeWhile (· != '.')).reverse
  if ending.isEmpty || fileName.length ≤ ending.length + 1 then [] else '.' :: ending

/-- The format of a file: JSON by the suffix of its name, in whatever case, and else YAML. -/
def formatName (fileName : String) : String :=
  if Text.lower (suffix fileName.toList) = ".json".toList then "json" else "yaml"

/-- The tree in a file. -/
def ofFile (fileName : String) (octets : List UInt8) : Except Fault Value :=
  match Text.Utf8.readText octets with
  | .error fault => .error (.notText octets fault)
  | .ok text => read (formatName fileName) text

end Document
end FormulaTex
