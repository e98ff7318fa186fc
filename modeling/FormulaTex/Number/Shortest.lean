import FormulaTex.Number.Double

/-!
# Shortest decimals

The decimal that stands for a floating-point number is the one with the fewest digits among those
that read back as the number, and of these the nearest to it. The numbers that read back form an
interval around the number, which holds its end points exactly when the significand is even. On
the grid of decimals with a given last place only the two neighbours of the number have to be
tried: if any point of the grid lies in the interval, one of them does.
-/

namespace FormulaTex

/-- The decimal `digits * 10 ^ power`. -/
structure Decimal where
  digits : Nat
  power : Int
deriving DecidableEq, Repr

namespace Double

/-- The reals that round to `significand * 2 ^ exponent`, in units of a quarter of the last place.
Below a power of two the neighbour is nearer. -/
structure Interval where
  low : Nat
  value : Nat
  high : Nat
  closed : Bool
  exponent : Int
deriving DecidableEq, Repr

def interval (significand : Nat) (exponent : Int) : Interval where
  low := 4 * significand - (if significand = Nat.pow 2 52 ∧ -1074 < exponent then 1 else 2)
  value := 4 * significand
  high := 4 * significand + 2
  closed := significand % 2 == 0
  exponent := exponent - 2

/-- Multiplies both sides of a comparison of `a * 2 ^ p` with `b * 10 ^ q` out to integers. -/
def align (a : Nat) (p : Int) (b : Nat) (q : Int) : Nat × Nat :=
  (a * Nat.pow 2 p.toNat * Nat.pow 10 (-q).toNat, b * Nat.pow 2 (-p).toNat * Nat.pow 10 q.toNat)

namespace Interval

/-- Whether a decimal reads back as the number. -/
def contains (i : Interval) (d : Decimal) : Bool :=
  let (low, x) := align i.low i.exponent d.digits d.power
  let (high, y) := align i.high i.exponent d.digits d.power
  if i.closed then decide (low ≤ x) && decide (y ≤ high) else decide (low < x) && decide (y < high)

/-- The decimals next to the number, below and above, with the given last place. -/
def neighbours (i : Interval) (power : Int) : Decimal × Decimal :=
  let (v, unit) := align i.value i.exponent 1 power
  (⟨v / unit, power⟩, ⟨v / unit + 1, power⟩)

/-- Whether the lower of two neighbouring decimals is at least as near as the upper one. -/
def lowerNearer (i : Interval) (lower : Decimal) : Bool :=
  let (twice, middle) := align (2 * i.value) i.exponent (2 * lower.digits + 1) lower.power
  decide (twice < middle) || (twice == middle && lower.digits % 2 == 0)

/-- The decimal with the given last place that stands for the number, if there is one. -/
def onGrid? (i : Interval) (power : Int) : Option Decimal :=
  let (lower, upper) := i.neighbours power
  match i.contains lower, i.contains upper with
  | true, true => some (if i.lowerNearer lower then lower else upper)
  | true, false => some lower
  | false, true => some upper
  | false, false => none

/-- The power of ten of the leading digit: the greatest that does not exceed the number. -/
def leadingPower (i : Interval) : Int :=
  let estimate : Int := ((i.value.log2 : Int) + i.exponent) * 30103 / 100000
  let reaches := fun (p : Int) =>
    let (v, unit) := align i.value i.exponent 1 p
    decide (unit ≤ v)
  if reaches (estimate + 1) then estimate + 1
  else if reaches estimate then estimate
  else estimate - 1

/-- Tries one digit, then two, and so on; seventeen digits always suffice. -/
def search (i : Interval) (leading : Int) (digits : Nat) : Nat → Decimal
  | 0 => (i.neighbours (leading + 1 - digits)).1
  | more + 1 =>
    match i.onGrid? (leading + 1 - digits) with
    | some d => d
    | none => search i leading (digits + 1) more

end Interval

/-- The shortest decimal of a positive number. -/
def shortest (significand : Nat) (exponent : Int) : Decimal :=
  let i := interval significand exponent
  i.search i.leadingPower 1 17

end Double

/-- How a decimal is laid out. Leading powers from `least` to `greatest` are written positionally
and always with a fraction; the others with an exponent of at least two digits. -/
structure DecimalLayout where
  least : Int
  greatest : Int
  fraction : String
  exponentMark : String
  exponentDigits : Nat

namespace DecimalLayout

def padStart (count : Nat) (text : String) : String :=
  String.ofList (List.replicate (count - text.length) '0') ++ text

/-- The digits of a decimal, without zeros at the end. -/
def significant (d : Decimal) : List Char :=
  let cs := (toString d.digits).toList
  let kept := (cs.reverse.dropWhile (· == '0')).reverse
  if kept.isEmpty then ['0'] else kept

def write (layout : DecimalLayout) (d : Decimal) : String :=
  let all := (toString d.digits).length
  let digits := significant d
  let leading : Int := d.power + all - 1
  if layout.least ≤ leading ∧ leading ≤ layout.greatest then
    if leading < 0 then
      "0." ++ String.ofList (List.replicate (-leading - 1).toNat '0') ++ String.ofList digits
    else
      let whole := leading.toNat + 1
      let padded := digits ++ List.replicate (whole - digits.length) '0'
      let rest := padded.drop whole
      String.ofList (padded.take whole)
        ++ (if rest.isEmpty then layout.fraction else "." ++ String.ofList rest)
  else
    let rest := digits.drop 1
    String.ofList (digits.take 1)
      ++ (if rest.isEmpty then "" else "." ++ String.ofList rest)
      ++ layout.exponentMark ++ (if leading < 0 then "-" else "+")
      ++ padStart layout.exponentDigits (toString leading.natAbs)

end DecimalLayout

namespace Double

/-- Numbers from a ten-thousandth up to below ten to the sixteenth are written out. -/
def layout : DecimalLayout where
  least := -4
  greatest := 15
  fraction := ".0"
  exponentMark := "e"
  exponentDigits := 2

def toText : Double → String
  | .nan => "nan"
  | .infinite negative => if negative then "-inf" else "inf"
  | .finite negative significand exponent =>
    (if negative then "-" else "")
      ++ (if significand = 0 then "0.0" else layout.write (shortest significand exponent))

end Double

end FormulaTex
