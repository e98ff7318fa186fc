import FormulaTex.Number.Reading
import FormulaTex.Yaml.Fault
import FormulaTex.Value

/-!
# Timestamps

A date, or a date with a time of the day, which may have a fraction of a second and a zone. The
fraction counts to the microsecond. Without a zone a point in time has no offset.
-/

namespace FormulaTex
namespace Yaml

/-- The zone of a timestamp: universal time, or hours and minutes ahead of it or behind. -/
inductive Zone where
  | universal
  | offset (negative : Bool) (hours minutes : Nat)
deriving DecidableEq, Repr

structure TimeOfDay where
  hour : Nat
  minute : Nat
  second : Nat
  fraction : List Char
  zone : Option Zone

structure Timestamp where
  year : Nat
  month : Nat
  day : Nat
  time : Option TimeOfDay

namespace Timestamp

def number (digits : List Char) : Nat :=
  Number.ofDigits 10 (digits.map fun c => c.toNat - 0x30)

/-- Splits off a number of at least `least` and at most `most` digits. -/
def digits? (least most : Nat) (text : List Char) : Option (Nat × List Char) :=
  let found := (text.take most).takeWhile Char.isDigit
  if found.length < least then none else some (number found, text.drop found.length)

def mark? (c : Char) : List Char → Option (List Char)
  | [] => none
  | d :: rest => if d = c then some rest else none

def isGap (c : Char) : Bool :=
  c = ' ' || c = '\t'

/-- The gap between date and time: one letter or some blanks. -/
def gap? : List Char → Option (List Char)
  | [] => none
  | c :: rest =>
    if c = 'T' ∨ c = 't' then some rest
    else if isGap c then some (rest.dropWhile isGap)
    else none

/-- A zone up to the end of the text, or no zone. -/
def zone? (text : List Char) : Option (Option Zone) :=
  match text with
  | [] => some none
  | _ =>
    match text.dropWhile isGap with
    | ['Z'] => some (some .universal)
    | sign :: rest =>
      if sign = '+' ∨ sign = '-' then do
        let (hours, rest) ← digits? 1 2 rest
        match rest with
        | [] => return some (.offset (sign = '-') hours 0)
        | ':' :: rest =>
          let (minutes, rest) ← digits? 2 2 rest
          if rest.isEmpty then return some (.offset (sign = '-') hours minutes) else none
        | _ => none
      else none
    | [] => none

def time? (text : List Char) : Option TimeOfDay := do
  let (hour, rest) ← digits? 1 2 text
  let (minute, rest) ← digits? 2 2 (← mark? ':' rest)
  let (second, rest) ← digits? 2 2 (← mark? ':' rest)
  let (fraction, rest) := match rest with
    | '.' :: rest => (rest.takeWhile Char.isDigit, rest.dropWhile Char.isDigit)
    | rest => ([], rest)
  let zone ← zone? rest
  return ⟨hour, minute, second, fraction, zone⟩

def parse? (text : List Char) : Option Timestamp := do
  let (year, rest) ← digits? 4 4 text
  let (month, rest) ← digits? 1 2 (← mark? '-' rest)
  let (day, rest) ← digits? 1 2 (← mark? '-' rest)
  match rest with
  | [] => return ⟨year, month, day, none⟩
  | _ => return ⟨year, month, day, some (← time? (← gap? rest))⟩

/-- A plain scalar is a timestamp if it has a time, or month and day in two digits each. -/
def isPlain (text : List Char) : Bool :=
  match parse? text with
  | none => false
  | some t => t.time.isSome || text.length == 10

def microseconds (fraction : List Char) : Nat :=
  let kept := fraction.take 6
  number (kept ++ List.replicate (6 - kept.length) '0')

def offsetMinutes : Zone → Int
  | .universal => 0
  | .offset negative hours minutes =>
    let n : Int := hours * 60 + minutes
    if negative then -n else n

def toScalar (t : Timestamp) : Except Fault Scalar :=
  match t.time with
  | none => ((Calendar.date t.year t.month t.day).map Scalar.date).mapError .calendar
  | some time =>
    ((Calendar.dateTime t.year t.month t.day time.hour time.minute time.second
      (microseconds time.fraction) (time.zone.map offsetMinutes)).map
        Scalar.dateTime).mapError .calendar

/-- Reads a timestamp. One line feed at the end is overlooked. -/
def read (text : List Char) : Except Fault Scalar :=
  let body := if text.getLast? = some '\n' then text.dropLast else text
  match parse? body with
  | none => .error .noTimestamp
  | some t => t.toScalar

end Timestamp

end Yaml
end FormulaTex
