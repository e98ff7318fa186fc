import FormulaTex.Json.Fault
import FormulaTex.Value

/-!
# Tokens of JSON

The words of a JSON text: brackets and marks, texts, numbers and literal names. Tokens follow one
another without regard to the grammar. A character that starts no token is kept as one, so that the
place where the grammar fails can be told. The names of the two infinities and of the number that
is none are tokens as well. An escape may name a surrogate without its partner, which is no
character. A text with such an escape is not whole, and says so.
-/

namespace FormulaTex
namespace Json

inductive Token where
  | mark (c : Char)
  | text (content : String) (isWhole : Bool)
  /-- A text that is broken at an offset. -/
  | broken (problem : Problem) (offset : Nat)
  | scalar (s : Scalar)
  | longInteger (digits : Nat)
  | stray (c : Char)
deriving DecidableEq, Repr

namespace Token

def isSpace (c : Char) : Bool :=
  c = ' ' || c = '\t' || c = '\n' || c = '\r'

def isMark (c : Char) : Bool :=
  ['[', ']', '\x7b', '\x7d', ':', ','].contains c

def hexValue? (c : Char) : Option Nat :=
  if c.isDigit then some (c.toNat - 0x30)
  else if 'a' ≤ c ∧ c ≤ 'f' then some (c.toNat - 0x57)
  else if 'A' ≤ c ∧ c ≤ 'F' then some (c.toNat - 0x37)
  else none

/-- The code given by four hexadecimal digits. -/
def code? (input : List Char) : Option Nat :=
  if input.length = 4 then
    input.foldl (fun n c => n.bind fun n => (hexValue? c).map (n * 16 + ·)) (some 0)
  else none

def escaped? (c : Char) : Option Char :=
  match c with
  | '\x22' => some '\x22'
  | '\\' => some '\\'
  | '/' => some '/'
  | 'b' => some '\x08'
  | 'f' => some '\x0c'
  | 'n' => some '\n'
  | 'r' => some '\r'
  | 't' => some '\t'
  | _ => none

def isHigh (code : Nat) : Bool :=
  decide (0xD800 ≤ code) && decide (code < 0xDC00)

def isLow (code : Nat) : Bool :=
  decide (0xDC00 ≤ code) && decide (code < 0xE000)

/-- The character of a code. A surrogate has none. -/
def ofCode? (code : Nat) : Option Char :=
  if isHigh code || isLow code then none else some (Char.ofNat code)

def ofPair (high low : Nat) : Char :=
  Char.ofNat (0x10000 + (high - 0xD800) * 0x400 + (low - 0xDC00))

/-- The character of a code escape after its mark, if it has one, with the number of characters
taken. The escape may not end the document. The first half of a pair takes the second half with
it. -/
def codeEscape? (input : List Char) : Except Nat (Option Char × Nat) :=
  match code? (input.take 4), input.drop 4 with
  | none, _ => .error 0
  | _, [] => .error 0
  | some high, '\\' :: 'u' :: rest =>
    if isHigh high && 4 < rest.length then
      match code? (rest.take 4) with
      | none => .error 6
      | some low =>
        if isLow low then .ok (some (ofPair high low), 10) else .ok (ofCode? high, 4)
    else .ok (ofCode? high, 4)
  | some code, _ => .ok (ofCode? code, 4)

/-- The text of some characters. One that is missing leaves the replacement character behind. -/
def ofCharacters (characters : List (Option Char)) : Token :=
  .text (String.ofList (characters.map fun c => c.getD '\uFFFD')) (characters.all Option.isSome)

/-- Reads a text behind its opening quote, which stands at `start`. The next character stands at
`offset`, `done` holds the characters before it, the latest first, and `skip` characters belong to
an escape that was read before. The result comes with the offset behind the text and what is left
there. -/
def readText (start : Nat) :
    Nat → Nat → List (Option Char) → List Char → Token × Nat × List Char
  | offset, _, _, [] => (.broken .openText start, offset, [])
  | offset, skip + 1, done, _ :: rest => readText start (offset + 1) skip done rest
  | offset, 0, done, c :: rest =>
    if c = '\x22' then (ofCharacters done.reverse, offset + 1, rest)
    else if c = '\\' then
      match rest with
      | [] => (.broken .openText start, offset, [])
      | 'u' :: digits =>
        match codeEscape? digits with
        | .error distance => (.broken .codeEscape (offset + 1 + distance), offset, [])
        | .ok (c, taken) => readText start (offset + 1) (taken + 1) (c :: done) rest
      | letter :: _ =>
        match escaped? letter with
        | none => (.broken .escape offset, offset, [])
        | some c => readText start (offset + 1) 1 (some c :: done) rest
    else if c.toNat < 0x20 then (.broken .controlCharacter offset, offset, [])
    else readText start (offset + 1) 0 (some c :: done) rest

/-- The digits at the start of a text. -/
def digits (input : List Char) : List Char :=
  input.takeWhile Char.isDigit

/-- The whole part of a number: a zero alone or digits that start with none. -/
def wholePart : List Char → List Char
  | '0' :: _ => ['0']
  | input => digits input

def fractionPart : List Char → List Char
  | '.' :: rest => if (digits rest).isEmpty then [] else '.' :: digits rest
  | _ => []

/-- The exponent of a number. A mark without digits does not belong to the number. -/
def exponentPart : List Char → List Char
  | [] => []
  | e :: rest =>
    if e = 'e' ∨ e = 'E' then
      let sign := match rest with
        | '-' :: _ => ['-']
        | '+' :: _ => ['+']
        | _ => []
      let power := digits (rest.drop sign.length)
      if power.isEmpty then [] else e :: sign ++ power
    else []

def numeral (lexeme whole : List Char) (isWhole : Bool) : Token :=
  if isWhole then
    if Number.digitLimit < whole.length then .longInteger whole.length
    else
      match Number.readInt 10 lexeme with
      | .ok n => .scalar (.int n)
      | .error _ => .stray '0'
  else
    match Number.readDouble lexeme with
    | .ok x => .scalar (.float x)
    | .error _ => .stray '0'

/-- A number at the start of a text, with the count of its characters. -/
def number? (input : List Char) : Option (Token × Nat) :=
  let sign := match input with
    | '-' :: _ => ['-']
    | _ => []
  let rest := input.drop sign.length
  let whole := wholePart rest
  if whole.isEmpty then none
  else
    let rest := rest.drop whole.length
    let fraction := fractionPart rest
    let power := exponentPart (rest.drop fraction.length)
    let lexeme := sign ++ whole ++ fraction ++ power
    some (numeral lexeme whole (fraction.isEmpty && power.isEmpty), lexeme.length)

def names : List (String × Scalar) := [
  ("null", .null), ("true", .bool true), ("false", .bool false), ("NaN", .float .nan),
  ("Infinity", .float (.infinite false)), ("-Infinity", .float (.infinite true))]

def name? (input : List Char) : Option (Token × Nat) :=
  (names.find? fun (name, _) => name.toList.isPrefixOf input).map
    fun (name, s) => (.scalar s, name.length)

/-- The token at the start of a text that is not empty, with the offset behind it and what is left
there. -/
def next (offset : Nat) (c : Char) (rest : List Char) : Token × Nat × List Char :=
  if isMark c then (.mark c, offset + 1, rest)
  else if c = '\x22' then readText offset (offset + 1) 0 [] rest
  else
    match (name? (c :: rest)).or (number? (c :: rest)) with
    | some (token, taken) => (token, offset + taken, (c :: rest).drop taken)
    | none => (.stray c, offset + 1, rest)

/-- The tokens of a text with their offsets. Every token has at least one character, so the length
of the text bounds the number of steps. Nothing is read behind a text that is broken. -/
def scanFrom : Nat → Nat → List Char → List (Token × Nat)
  | 0, _, _ => []
  | _, _, [] => []
  | steps + 1, offset, c :: rest =>
    if isSpace c then scanFrom steps (offset + 1) rest
    else
      let (token, after, rest) := next offset c rest
      (token, offset) :: scanFrom steps after rest

def scan (input : List Char) : List (Token × Nat) :=
  scanFrom input.length 0 input

def isWhole : Token → Bool
  | text _ isWhole => isWhole
  | _ => true

end Token

end Json
end FormulaTex
