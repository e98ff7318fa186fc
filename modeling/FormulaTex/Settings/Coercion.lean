import FormulaTex.Settings.Issue
import FormulaTex.Text.Utf8

/-!
# Lenient reading of fields

A field takes every value that stands for one of its own type without doubt. Bytes are taken as
the text that they encode. Integers may be given as truth values, as floating-point numbers without
a fraction and as text, truth values as zero and one and as words.
-/

namespace FormulaTex
namespace Settings

open Text

def ofOctets? (octets : List UInt8) : Option String :=
  match Utf8.decode octets with
  | .ok text => some (String.ofList text)
  | .error _ => none

def readText : Value → Checked String
  | .str text => .ok text
  | .scalar (.bytes octets) =>
    match ofOctets? octets with
    | some text => .ok text
    | none => .refuse .notUnicode
  | _ => .refuse .notText

/-- Unicode white space; the information separators do not belong to it. -/
def isSpace (c : Char) : Bool :=
  isBlank c && !(decide (0x1C ≤ c.toNat) && decide (c.toNat ≤ 0x1F))

def trim (text : List Char) : List Char :=
  (((text.dropWhile isSpace).reverse).dropWhile isSpace).reverse

/-- Drops a plus sign, which must not stand before a minus sign. -/
def dropPlus? : List Char → Option (List Char)
  | '+' :: '-' :: _ => none
  | '+' :: rest => some rest
  | text => some text

/-- Drops zeros in front, and underscores among them, given the character before the rest. One
zero stays when no other digit follows it. -/
def dropZeros? (before : Char) : List Char → Option (List Char)
  | [] => some [before]
  | c :: rest =>
    if c = '0' ∨ c = '_' then dropZeros? c rest
    else if c.isDigit then some (c :: rest)
    else if c = '.' then some (before :: '.' :: rest)
    else none

/-- A number starts with a digit or a minus sign; after the sign zeros are not dropped. -/
def dropLeadingZeros? : List Char → Option (List Char)
  | '0' :: rest => dropZeros? '0' rest
  | c :: rest => if c.isDigit || c = '-' then some (c :: rest) else none
  | [] => none

/-- Drops a fraction that is zero. -/
def dropZeroFraction (text : List Char) : List Char :=
  let fraction := text.dropWhile (· != '.')
  if (fraction.drop 1).all (· == '0') then text.takeWhile (· != '.') else text

/-- Whether a text has two underscores in a row. -/
def hasDoubleUnderscore : List Char → Bool
  | '_' :: '_' :: _ => true
  | _ :: rest => hasDoubleUnderscore rest
  | [] => false

/-- Drops single underscores from the inside of a text; otherwise they stay and spoil it. -/
def dropUnderscores (text : List Char) : List Char :=
  if text.head? = some '_' || text.getLast? = some '_' || hasDoubleUnderscore text then text
  else text.filter (· != '_')

/-- Digits without a superfluous zero in front. -/
def isPlainDigits (digits : List Char) : Bool :=
  !digits.isEmpty && digits.all Char.isDigit && (digits.head? != some '0' || digits.length == 1)

def readPlainInteger (text : List Char) : Checked Int :=
  let (negative, digits) := match text with
    | '-' :: rest => (true, rest)
    | text => (false, text)
  if !isPlainDigits digits then .refuse .unreadableInteger
  else if Number.digitLimit < digits.length then .refuse .integerTooLong
  else
    let n : Int := Number.ofDigits 10 (digits.filterMap Number.digitValue?)
    .ok (if negative then -n else n)

def readIntegerText (text : List Char) : Checked Int :=
  match (dropPlus? (trim text)).bind dropLeadingZeros? with
  | none => .refuse .unreadableInteger
  | some text => readPlainInteger (dropUnderscores (dropZeroFraction text))

def readFloatAsInteger (x : Double) : Checked Int :=
  if !x.isFinite then .refuse .notFinite
  else
    match x.toInt? with
    | none => .refuse .fraction
    | some n => if n.natAbs < wordBound then .ok n else .refuse .integerTooLong

def readInteger : Value → Checked Int
  | .scalar (.int n) => .ok n
  | .scalar (.bool b) => .ok (if b then 1 else 0)
  | .scalar (.float x) => readFloatAsInteger x
  | .str text => readIntegerText text.toList
  | .scalar (.bytes octets) =>
    match ofOctets? octets with
    | some text => readIntegerText text.toList
    | none => .refuse .unreadableInteger
  | _ => .refuse .notInteger

def readDepth (value : Value) : Checked Nat := do
  let n ← readInteger value
  if n < 1 then .refuse .belowOne else .ok n.toNat

/-- The words for a truth value are read without regard to the case of ASCII letters, and blanks
around them are not dropped. -/
def readTruthText (text : List Char) : Checked Bool :=
  let word := String.ofList (text.map Char.toLower)
  if ["0", "off", "f", "false", "n", "no"].contains word then .ok false
  else if ["1", "on", "t", "true", "y", "yes"].contains word then .ok true
  else .refuse .unreadableTruth

def readTruth : Value → Checked Bool
  | .scalar (.bool b) => .ok b
  | .scalar (.int n) =>
    if n = 0 then .ok false
    else if n = 1 then .ok true
    else if fitsWord n then .refuse .unreadableTruth
    else .refuse .notTruth
  | .scalar (.float x) =>
    if x.equalsInt 0 then .ok false
    else if x.equalsInt 1 then .ok true
    else .refuse .notTruth
  | .str text => readTruthText text.toList
  | .scalar (.bytes octets) =>
    match ofOctets? octets with
    | some text => readTruthText text.toList
    | none => .refuse .unreadableTruth
  | _ => .refuse .notTruth

end Settings
end FormulaTex
