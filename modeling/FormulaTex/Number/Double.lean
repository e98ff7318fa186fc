/-!
# Binary floating point of 64 bits

A number is kept as an integer significand and a power of two, so that reading, comparing and
printing are exact integer arithmetic. A finite number has a significand below `2 ^ 53` and an
exponent from `-1074` to `971`, and its significand is at least `2 ^ 52` unless the exponent is the
smallest one. Every operation computes the exact rational result and rounds it once, to the
nearest number and to the even significand of two equally near.
-/

namespace FormulaTex

inductive Double where
  | nan
  | infinite (negative : Bool)
  | finite (negative : Bool) (significand : Nat) (exponent : Int)
deriving DecidableEq, Repr, Inhabited

namespace Double

def zero (negative : Bool) : Double :=
  .finite negative 0 (-1074)

/-- The quotient rounded to the nearest integer, a half going to the even one. -/
def roundQuotient (num den : Nat) : Nat :=
  let q := num / den
  let r := num % den
  if 2 * r < den then q
  else if den < 2 * r then q + 1
  else q + q % 2

/-- The fraction `num / den` divided by a power of two. -/
def scaleDown (num den : Nat) (exponent : Int) : Nat × Nat :=
  if 0 ≤ exponent then (num, den * Nat.pow 2 exponent.toNat)
  else (num * Nat.pow 2 (-exponent).toNat, den)

/-- The exponent at which a positive fraction has 53 significant bits, or the smallest one. -/
def exponentFor (num den : Nat) : Int :=
  let low : Int := (num.log2 : Int) - (den.log2 : Int) - 53
  let (n, d) := scaleDown num den low
  max (-1074) (if d * Nat.pow 2 53 ≤ n then low + 1 else low)

/-- The number nearest to a positive or negative fraction; too large a fraction is infinite. -/
def ofRatio (negative : Bool) (num den : Nat) : Double :=
  if num = 0 then zero negative
  else
    let e := exponentFor num den
    let (n, d) := scaleDown num den e
    let m := roundQuotient n d
    let (m, e) := if m = Nat.pow 2 53 then (Nat.pow 2 52, e + 1) else (m, e)
    if 971 < e then .infinite negative else .finite negative m e

/-- The number nearest to `digits * 10 ^ power`. Powers far outside the range are settled without
computing them. -/
def ofDecimal (negative : Bool) (digits : Nat) (power : Int) : Double :=
  if digits = 0 then zero negative
  else
    let places : Int := (toString digits).length + power
    if 400 < places then .infinite negative
    else if places < -400 then zero negative
    else if 0 ≤ power then ofRatio negative (digits * Nat.pow 10 power.toNat) 1
    else ofRatio negative digits (Nat.pow 10 (-power).toNat)

def ofInt (n : Int) : Double :=
  ofRatio (n < 0) n.natAbs 1

/-- Sign, numerator and denominator of a finite number. -/
def toFraction (negative : Bool) (significand : Nat) (exponent : Int) : Int × Nat :=
  let sign : Int := if negative then -1 else 1
  if 0 ≤ exponent then (sign * (significand * Nat.pow 2 exponent.toNat : Nat), 1)
  else (sign * significand, Nat.pow 2 (-exponent).toNat)

def fraction? : Double → Option (Int × Nat)
  | .finite negative significand exponent => some (toFraction negative significand exponent)
  | _ => none

def neg : Double → Double
  | .nan => .nan
  | .infinite s => .infinite (!s)
  | .finite s m e => .finite (!s) m e

def isNegative : Double → Bool
  | .nan => false
  | .infinite s => s
  | .finite s _ _ => s

/-- A sum of opposite numbers is the positive zero. -/
def add (x y : Double) : Double :=
  match x, y with
  | .nan, _ => .nan
  | _, .nan => .nan
  | .infinite s, .infinite t => if s = t then .infinite s else .nan
  | .infinite s, _ => .infinite s
  | _, .infinite t => .infinite t
  | .finite s m e, .finite t n f =>
    let (a, b) := toFraction s m e
    let (c, d) := toFraction t n f
    let sum := a * d + c * b
    if sum = 0 then zero (s && t) else ofRatio (sum < 0) sum.natAbs (b * d)

def mul (x y : Double) : Double :=
  match x, y with
  | .nan, _ => .nan
  | _, .nan => .nan
  | .infinite s, .finite t n _ => if n = 0 then .nan else .infinite (s != t)
  | .finite s m _, .infinite t => if m = 0 then .nan else .infinite (s != t)
  | .infinite s, .infinite t => .infinite (s != t)
  | .finite s m e, .finite t n f =>
    let (a, b) := toFraction s m e
    let (c, d) := toFraction t n f
    ofRatio (s != t) (a * c).natAbs (b * d)

/-- The integer that a number is, if it is one. -/
def toInt? (x : Double) : Option Int :=
  match x.fraction? with
  | some (a, b) => if a % (b : Int) = 0 then some (a / (b : Int)) else none
  | none => none

def isFinite : Double → Bool
  | .finite .. => true
  | _ => false

/-- Numbers are compared by value; both zeros are equal and NaN equals nothing. -/
def equals (x y : Double) : Bool :=
  match x, y with
  | .infinite s, .infinite t => s == t
  | .finite s m e, .finite t n f =>
    let (a, b) := toFraction s m e
    let (c, d) := toFraction t n f
    a * d == c * b
  | _, _ => false

/-- Strict order by value; nothing is below or above NaN. -/
def less (x y : Double) : Bool :=
  match x, y with
  | .nan, _ => false
  | _, .nan => false
  | .infinite s, .infinite t => s && !t
  | .infinite s, .finite .. => s
  | .finite .., .infinite t => !t
  | .finite s m e, .finite t n f =>
    let (a, b) := toFraction s m e
    let (c, d) := toFraction t n f
    decide (a * d < c * b)

/-- An integer and a number are compared exactly, without rounding the integer. -/
def equalsInt (x : Double) (n : Int) : Bool :=
  match x.fraction? with
  | some (a, b) => a == n * b
  | none => false

def lessInt (x : Double) (n : Int) : Bool :=
  match x with
  | .nan => false
  | .infinite s => s
  | .finite s m e => let (a, b) := toFraction s m e; decide (a < n * b)

def intLess (n : Int) (x : Double) : Bool :=
  match x with
  | .nan => false
  | .infinite s => !s
  | .finite s m e => let (a, b) := toFraction s m e; decide (n * b < a)

end Double

end FormulaTex
