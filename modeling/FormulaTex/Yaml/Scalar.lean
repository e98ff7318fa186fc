import FormulaTex.Text.Base64
import FormulaTex.Text.LowerCase
import FormulaTex.Yaml.Tag

/-!
# Scalars of YAML

The scalar that a text has under a tag. Underscores in numbers are dropped. An integer may announce
its base, and a number with colons is in base 60.
-/

namespace FormulaTex
namespace Yaml

open Text

namespace ReadScalar

/-- The lower-case words for truth values. -/
def truths : List (String × Bool) := [
  ("yes", true), ("no", false), ("true", true), ("false", false), ("on", true), ("off", false)]

def truth (text : List Char) : Except Fault Scalar :=
  let word := String.ofList (lower text)
  match truths.lookup word with
  | some b => .ok (.bool b)
  | none => .error (.noTruth word)

/-- A number without underscores, split from its sign. -/
def unsigned (text : List Char) : Except Fault (Bool × List Char) :=
  match text.filter (· != '_') with
  | [] => .error .emptyNumber
  | '-' :: rest => .ok (true, rest)
  | '+' :: rest => .ok (false, rest)
  | rest => .ok (false, rest)

def integerIn (base : Nat) (text : List Char) : Except Fault Int :=
  (Number.readInt base text).mapError .number

/-- An integer from its digits in base 60. -/
def sexagesimal (text : List Char) : Except Fault Int := do
  let parts ← (cutAt ':' text).mapM (integerIn 10)
  return parts.foldl (fun n part => n * 60 + part) 0

def magnitude (text : List Char) : Except Fault Int :=
  match text with
  | [] => .error .emptyNumber
  | ['0'] => .ok 0
  | '0' :: 'b' :: digits => integerIn 2 digits
  | '0' :: 'x' :: digits => integerIn 16 digits
  | '0' :: _ => integerIn 8 text
  | _ => if text.contains ':' then sexagesimal text else integerIn 10 text

def integer (text : List Char) : Except Fault Scalar := do
  let (negative, body) ← unsigned text
  let n ← magnitude body
  return .int (if negative then -n else n)

def decimal (text : List Char) : Except Fault Double :=
  (Number.readDouble text).mapError .number

/-- A number from its digits in base 60, the last of which may have a fraction. The last digit is
added first. -/
def sexagesimalFloat (text : List Char) : Except Fault Double := do
  let parts ← (cutAt ':' text).mapM decimal
  let weighted := parts.reverse.zipIdx.map fun (part, i) =>
    part.mul (Double.ofInt (Nat.pow 60 i : Nat))
  return weighted.foldl Double.add (Double.zero false)

def float (text : List Char) : Except Fault Scalar := do
  let (negative, body) ← unsigned (lower text)
  let x ←
    if body = ".inf".toList then .ok (.infinite false)
    else if body = ".nan".toList then .ok .nan
    else if body.contains ':' then sexagesimalFloat body
    else decimal body
  return .float (if negative then x.neg else x)

def binary (text : List Char) : Except Fault Scalar :=
  if text.all fun c => decide (c.toNat < 0x80) then
    match Base64.decode? text with
    | some octets => .ok (.bytes octets)
    | none => .error .malformed
  else .error .malformed

end ReadScalar

/-- The tags of scalars. -/
def Tag.ofScalars : List String := [
  Tag.null, Tag.bool, Tag.int, Tag.float, Tag.str, Tag.binary, Tag.timestamp]

/-- The scalar of a text under a tag of scalars; no other tag fits a text. -/
def readScalar (tag : String) (text : List Char) : Except Fault Scalar :=
  if tag = Tag.str then .ok (.str (String.ofList text))
  else if tag = Tag.null then .ok .null
  else if tag = Tag.bool then ReadScalar.truth text
  else if tag = Tag.int then ReadScalar.integer text
  else if tag = Tag.float then ReadScalar.float text
  else if tag = Tag.binary then ReadScalar.binary text
  else if tag = Tag.timestamp then Timestamp.read text
  else .error .malformed

end Yaml
end FormulaTex
