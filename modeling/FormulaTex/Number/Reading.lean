import FormulaTex.Number.Shortest
import FormulaTex.Text.Blank
import FormulaTex.Text.Quoted

/-!
# Reading numbers

Integers in a base and decimal fractions as they are written in text. Blanks around a number are
ignored, it may carry a sign, single underscores may stand between digits, and the decimal digits
of every script count. An integer in decimal is limited in length, in reading as in writing,
because the conversion takes time quadratic in it.
-/

namespace FormulaTex
namespace Number

open Text

/-- The zero of each script's ten decimal digits, which follow it in order. -/
def digitZeros : List Nat := [
  0x30, 0x660, 0x6F0, 0x7C0, 0x966, 0x9E6, 0xA66, 0xAE6, 0xB66, 0xBE6, 0xC66, 0xCE6, 0xD66,
  0xDE6, 0xE50, 0xED0, 0xF20, 0x1040, 0x1090, 0x17E0, 0x1810, 0x1946, 0x19D0, 0x1A80, 0x1A90,
  0x1B50, 0x1BB0, 0x1C40, 0x1C50, 0xA620, 0xA8D0, 0xA900, 0xA9D0, 0xA9F0, 0xAA50, 0xABF0, 0xFF10,
  0x104A0, 0x10D30, 0x11066, 0x110F0, 0x11136, 0x111D0, 0x112F0, 0x11450, 0x114D0, 0x11650,
  0x116C0, 0x11730, 0x118E0, 0x11950, 0x11C50, 0x11D50, 0x11DA0, 0x16A60, 0x16AC0, 0x16B50,
  0x1D7CE, 0x1D7D8, 0x1D7E2, 0x1D7EC, 0x1D7F6, 0x1E140, 0x1E2F0, 0x1E950, 0x1FBF0]

/-- The longest integer, in decimal digits, that is converted from or to text. -/
def digitLimit : Nat := 4300

inductive Fault where
  | notInteger (base : Nat) (text : String)
  | notDecimal (text : String)
  | tooLongToRead (digits : Nat)
  | tooLongToWrite
deriving DecidableEq, Repr

namespace Fault

def message : Fault → String
  | notInteger base text =>
    "invalid literal for int() with base " ++ toString base ++ ": " ++ quoted text
  | notDecimal text => "could not convert string to float: " ++ quoted text
  | tooLongToRead digits =>
    "Exceeds the limit (" ++ toString digitLimit
      ++ " digits) for integer string conversion: value has " ++ toString digits
      ++ " digits; use sys.set_int_max_str_digits() to increase the limit"
  | tooLongToWrite =>
    "Exceeds the limit (" ++ toString digitLimit
      ++ " digits) for integer string conversion;"
      ++ " use sys.set_int_max_str_digits() to increase the limit"

end Fault

/-- The value of a character as a digit, letters counting on from ten. -/
def digitValue? (c : Char) : Option Nat :=
  let n := c.toNat
  if 0x61 ≤ n ∧ n ≤ 0x7A then some (n - 0x57)
  else if 0x41 ≤ n ∧ n ≤ 0x5A then some (n - 0x37)
  else (digitZeros.find? fun start => decide (start ≤ n) && decide (n ≤ start + 9)).map (n - ·)

/-- The digits of a number in a base. A single underscore may stand before each digit but the
first. -/
def digits? (base : Nat) (first : Bool) : List Char → Option (List Nat)
  | [] => if first then none else some []
  | '_' :: c :: rest =>
    if first then none
    else
      match digitValue? c with
      | some d => if d < base then (digits? base false rest).map (d :: ·) else none
      | none => none
  | c :: rest =>
    match digitValue? c with
    | some d => if d < base then (digits? base false rest).map (d :: ·) else none
    | none => none

def ofDigits (base : Nat) (digits : List Nat) : Nat :=
  digits.foldl (fun n d => n * base + d) 0

/-- Splits a sign off; without one the number is positive. -/
def splitSign : List Char → Bool × List Char
  | '-' :: rest => (true, rest)
  | '+' :: rest => (false, rest)
  | text => (false, text)

/-- The letters that may announce a base after a zero. -/
def baseLetters (base : Nat) : List Char :=
  if base = 2 then ['b', 'B'] else if base = 8 then ['o', 'O'] else if base = 16 then ['x', 'X']
  else []

/-- Drops the announcement of a base, and one underscore after it. -/
def dropBaseMark (base : Nat) : List Char → List Char
  | '0' :: letter :: rest =>
    if (baseLetters base).contains letter then
      match rest with
      | '_' :: rest => rest
      | rest => rest
    else '0' :: letter :: rest
  | text => text

/-- Bases that are powers of two are converted in linear time and not limited. -/
def limitedBase (base : Nat) : Bool :=
  base != 2 && base != 8 && base != 16

def readInt (base : Nat) (text : List Char) : Except Fault Int :=
  let (negative, body) := splitSign (strip text)
  match digits? base true (dropBaseMark base body) with
  | none => .error (.notInteger base (String.ofList text))
  | some digits =>
    if limitedBase base && decide (digitLimit < digits.length) then
      .error (.tooLongToRead digits.length)
    else
      let n : Int := ofDigits base digits
      .ok (if negative then -n else n)

/-- A decimal written with digits, a point and an exponent: its digits as an integer and the power
of ten that goes with them. At least one digit stands before or after the point. -/
def splitDecimal? (text : List Char) : Option (Nat × Int) :=
  let isDigit := fun (c : Char) => match digitValue? c with
    | some d => decide (d < 10)
    | none => false
  let whole := text.takeWhile isDigit
  let rest := text.dropWhile isDigit
  let (fraction, rest) := match rest with
    | '.' :: rest => (rest.takeWhile isDigit, rest.dropWhile isDigit)
    | rest => ([], rest)
  if whole.isEmpty && fraction.isEmpty then none
  else
    let digits := ofDigits 10 ((whole ++ fraction).filterMap digitValue?)
    match rest with
    | [] => some (digits, -(fraction.length : Int))
    | e :: rest =>
      if e = 'e' ∨ e = 'E' then
        let (negative, power) := splitSign rest
        if !power.isEmpty && power.all isDigit then
          let n : Int := ofDigits 10 (power.filterMap digitValue?)
          some (digits, (if negative then -n else n) - fraction.length)
        else none
      else none

/-- Underscores are allowed between two digits only. -/
def dropUnderscores? (before : Bool) : List Char → Option (List Char)
  | [] => some []
  | '_' :: c :: rest =>
    if before && (digitValue? c).any (· < 10) then
      (dropUnderscores? true rest).map (c :: ·)
    else none
  | c :: rest =>
    if c = '_' then none
    else (dropUnderscores? ((digitValue? c).any (· < 10)) rest).map (c :: ·)

def readDouble (text : List Char) : Except Fault Double :=
  let fault := Except.error (Fault.notDecimal (String.ofList text))
  let (negative, body) := splitSign (strip text)
  let word := String.ofList (body.map Char.toLower)
  if word = "inf" ∨ word = "infinity" then .ok (.infinite negative)
  else if word = "nan" then .ok .nan
  else
    match (dropUnderscores? false body).bind splitDecimal? with
    | some (digits, power) => .ok (Double.ofDecimal negative digits power)
    | none => fault

/-- Whether an integer has a written form within the limit. -/
def isWritable (n : Int) : Bool :=
  decide (n.natAbs < Nat.pow 10 digitLimit)

end Number
end FormulaTex
