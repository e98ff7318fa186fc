import FormulaTex.Text.Blank
import FormulaTex.Yaml.Timestamp

/-!
# Tags

The tags with a meaning, and the tag that a plain scalar has by its text. Truth values and null have
a fixed list of spellings; numbers may have underscores among their digits, and integers may be
binary, octal, hexadecimal or in base 60.
-/

namespace FormulaTex
namespace Yaml

namespace Tag

def standard (name : String) : String :=
  "tag:yaml.org,2002:" ++ name

def null : String := standard "null"
def bool : String := standard "bool"
def int : String := standard "int"
def float : String := standard "float"
def str : String := standard "str"
def binary : String := standard "binary"
def timestamp : String := standard "timestamp"
def seq : String := standard "seq"
def map : String := standard "map"
def set : String := standard "set"
def omap : String := standard "omap"
def pairs : String := standard "pairs"
def merge : String := standard "merge"
def value : String := standard "value"

def truthWords : List String := [
  "yes", "Yes", "YES", "no", "No", "NO", "true", "True", "TRUE", "false", "False", "FALSE",
  "on", "On", "ON", "off", "Off", "OFF"]

def nullWords : List String := ["~", "null", "Null", "NULL"]

def isDigitOrBar (c : Char) : Bool :=
  c.isDigit || c = '_'

/-- Nonempty text with all characters from a list. -/
def isMadeOf (alphabet : String) (text : List Char) : Bool :=
  !text.isEmpty && text.all fun c => alphabet.toList.contains c

/-- A number below sixty in one or two digits. -/
def isSexagesimal (text : List Char) : Bool :=
  match text with
  | [d] => d.isDigit
  | [t, d] => t.isDigit && decide (t ≤ '5') && d.isDigit
  | _ => false

/-- Groups of base 60, each behind a colon. -/
def areGroups (text : List Char) : Bool :=
  match Text.cutAt ':' text with
  | [] :: group :: groups => (group :: groups).all isSexagesimal
  | _ => false

def dropSign : List Char → List Char
  | '-' :: rest => rest
  | '+' :: rest => rest
  | text => text

def isInt (text : List Char) : Bool :=
  match dropSign text with
  | '0' :: 'b' :: digits => isMadeOf "01_" digits
  | '0' :: 'x' :: digits => isMadeOf "0123456789abcdefABCDEF_" digits
  | '0' :: digits => digits.isEmpty || isMadeOf "01234567_" digits
  | c :: rest =>
    let groups := rest.dropWhile isDigitOrBar
    c.isDigit && (groups.isEmpty || areGroups groups)
  | [] => false

/-- An exponent, which must have a sign, or nothing. -/
def isExponent : List Char → Bool
  | [] => true
  | e :: sign :: digits =>
    (e = 'e' || e = 'E') && (sign = '+' || sign = '-') && isMadeOf "0123456789" digits
  | _ => false

/-- Digits, a point and a fraction; the exponent goes with the plain form only. -/
def isFloat (text : List Char) : Bool :=
  let body := dropSign text
  let startsWithDigit := body.head?.any Char.isDigit
  let rest := body.dropWhile isDigitOrBar
  let groups := rest.takeWhile (· != '.')
  let fraction := (rest.dropWhile (· != '.')).drop 1
  let special := String.ofList body
  (startsWithDigit && rest.head? = some '.' && isExponent (fraction.dropWhile isDigitOrBar))
    || (startsWithDigit && rest.contains '.' && areGroups groups && fraction.all isDigitOrBar)
    || (text.head? = some '.' && (text.drop 1).head?.any Char.isDigit
      && isExponent ((text.drop 1).dropWhile isDigitOrBar))
    || [".inf", ".Inf", ".INF"].contains special
    || [".nan", ".NaN", ".NAN"].contains (String.ofList text)

/-- The tag of a plain scalar. One line feed at the end is overlooked. -/
def implied (text : List Char) : String :=
  let body := if text.getLast? = some '\n' then text.dropLast else text
  let word := String.ofList body
  if text.isEmpty then null
  else if truthWords.contains word then bool
  else if isFloat body then float
  else if isInt body then int
  else if word = "<<" then merge
  else if nullWords.contains word then null
  else if Timestamp.isPlain body then timestamp
  else if word = "=" then value
  else str

end Tag

end Yaml
end FormulaTex
