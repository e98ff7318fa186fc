/-!
# Calendar values

Dates and points in time of the Gregorian calendar, as documents may hold them. A point in time
may carry an offset from universal time; only points that both carry one, or both carry none, can
be compared.
-/

namespace FormulaTex

structure Date where
  year : Nat
  month : Nat
  day : Nat
deriving DecidableEq, Repr

/-- The offset is in minutes. -/
structure DateTime where
  date : Date
  hour : Nat
  minute : Nat
  second : Nat
  microsecond : Nat
  offset : Option Int
deriving DecidableEq, Repr

namespace Calendar

inductive Fault where
  | year (n : Nat)
  | month
  | day
  | hour
  | minute
  | second
  | offset (minutes : Int)
deriving DecidableEq, Repr

/-- A decimal number with zeros in front up to a width. -/
def padded (size n : Nat) : String :=
  let digits := toString n
  String.ofList (List.replicate (size - digits.length) '0') ++ digits

/-- The constructor form of a time span: whole days, which carry the sign, and seconds. -/
def spanText (minutes : Int) : String :=
  let seconds := minutes * 60
  let days := seconds / 86400
  let rest := seconds % 86400
  let parts := (if days = 0 then [] else ["days=" ++ toString days])
    ++ (if rest = 0 then [] else ["seconds=" ++ toString rest])
  "datetime.timedelta(" ++ (if parts.isEmpty then "0" else ", ".intercalate parts) ++ ")"

namespace Fault

def message : Fault → String
  | year n => "year " ++ toString n ++ " is out of range"
  | month => "month must be in 1..12"
  | day => "day is out of range for month"
  | hour => "hour must be in 0..23"
  | minute => "minute must be in 0..59"
  | second => "second must be in 0..59"
  | offset minutes =>
    "offset must be a timedelta strictly between -timedelta(hours=24) and timedelta(hours=24), not "
      ++ spanText minutes ++ "."

end Fault

def isLeap (year : Nat) : Bool :=
  year % 4 == 0 && (year % 100 != 0 || year % 400 == 0)

def daysInMonth (year month : Nat) : Nat :=
  if month = 2 then (if isLeap year then 29 else 28)
  else if month = 4 ∨ month = 6 ∨ month = 9 ∨ month = 11 then 30
  else 31

def date (year month day : Nat) : Except Fault Date :=
  if year = 0 ∨ 9999 < year then .error (.year year)
  else if month = 0 ∨ 12 < month then .error .month
  else if day = 0 ∨ daysInMonth year month < day then .error .day
  else .ok ⟨year, month, day⟩

/-- The offset is checked first, then the date, then the time. -/
def dateTime (year month day hour minute second microsecond : Nat) (offset : Option Int) :
    Except Fault DateTime := do
  match offset with
  | some minutes => if 1440 ≤ minutes.natAbs then throw (.offset minutes)
  | none => pure ()
  let day ← date year month day
  if 23 < hour then throw .hour
  if 59 < minute then throw .minute
  if 59 < second then throw .second
  return ⟨day, hour, minute, second, microsecond, offset⟩

end Calendar

namespace Date

def toText (d : Date) : String :=
  Calendar.padded 4 d.year ++ "-" ++ Calendar.padded 2 d.month ++ "-" ++ Calendar.padded 2 d.day

def spelled (d : Date) : String :=
  "datetime.date(" ++ toString d.year ++ ", " ++ toString d.month ++ ", " ++ toString d.day ++ ")"

/-- Days since the first of March of the year zero. -/
def dayNumber (d : Date) : Nat :=
  let y := if d.month ≤ 2 then d.year - 1 else d.year
  let m := if d.month ≤ 2 then d.month + 9 else d.month - 3
  365 * y + y / 4 - y / 100 + y / 400 + (153 * m + 2) / 5 + d.day

end Date

namespace DateTime

def offsetText (minutes : Int) : String :=
  (if minutes < 0 then "-" else "+") ++ Calendar.padded 2 (minutes.natAbs / 60) ++ ":"
    ++ Calendar.padded 2 (minutes.natAbs % 60)

def toText (t : DateTime) : String :=
  t.date.toText ++ " " ++ Calendar.padded 2 t.hour ++ ":" ++ Calendar.padded 2 t.minute ++ ":"
    ++ Calendar.padded 2 t.second
    ++ (if t.microsecond = 0 then "" else "." ++ Calendar.padded 6 t.microsecond)
    ++ (t.offset.map offsetText).getD ""

def zoneSpelled (minutes : Int) : String :=
  if minutes = 0 then "datetime.timezone.utc"
  else "datetime.timezone(" ++ Calendar.spanText minutes ++ ")"

/-- The constructor form; seconds and fraction are left out from the end while they are zero. -/
def spelled (t : DateTime) : String :=
  let head := [t.date.year, t.date.month, t.date.day, t.hour, t.minute]
  let tail :=
    if t.microsecond = 0 then (if t.second = 0 then [] else [t.second])
    else [t.second, t.microsecond]
  "datetime.datetime(" ++ ", ".intercalate ((head ++ tail).map toString)
    ++ (t.offset.map fun minutes => ", tzinfo=" ++ zoneSpelled minutes).getD "" ++ ")"

/-- Microseconds since a fixed day, in universal time where an offset is given. -/
def instant (t : DateTime) : Int :=
  let minutes : Int := (t.date.dayNumber * 1440 + t.hour * 60 + t.minute : Nat) - t.offset.getD 0
  (minutes * 60 + t.second) * 1000000 + t.microsecond

end DateTime

end FormulaTex
