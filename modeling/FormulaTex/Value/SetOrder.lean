import FormulaTex.Value.Equality

/-!
# The order of sets

A set of numbers lists its members by their places in a table, and not in the order in which they
came. The table has more than twice as many places as members, and eight at least; up to four
members fit into eight places. A number takes the first free place on its way through the table,
which depends on the value of the number alone, so equal numbers take the same way. Members come
into the table one after another. Other sets keep the order in which their members came.
-/

namespace FormulaTex
namespace SetOrder

/-- Numbers are told apart by their residue; a power of two has an inverse. -/
def modulus : Nat := Nat.pow 2 61 - 1

/-- A residue with a sign as a word of 64 bits. The word for minus one is not used. -/
def word (negative : Bool) (residue : Nat) : Nat :=
  if negative ∧ residue = 1 then Nat.pow 2 64 - 2
  else if negative ∧ residue ≠ 0 then Nat.pow 2 64 - residue
  else residue

/-- The residue of a fraction whose denominator is the power of two with an exponent. -/
def residue (num exponent : Nat) : Nat :=
  num % modulus * Nat.pow 2 ((61 - exponent % 61) % 61) % modulus

/-- The word that tells the way of a number through the table. -/
def code? : Numeral → Option Nat
  | .int n => some (word (n < 0) (n.natAbs % modulus))
  | .float .nan => none
  | .float (.infinite negative) => some (word negative 314159)
  | .float (.finite negative significand exponent) =>
    let (num, den) := Double.toFraction false significand exponent
    some (word negative (residue num.natAbs den.log2))

/-- The number of places for a number of members. -/
def tableSize (count : Nat) : Nat :=
  if count ≤ 4 then 8 else Nat.pow 2 ((2 * count).log2 + 1)

/-- The places that are tried from one place on: ten in a row, unless the table ends before. -/
def row (size start : Nat) : List Nat :=
  if start + 9 < size then List.range' start 10 else [start]

/-- The first free place on the way of a code. The way leaves no place out once the code is used
up, which takes thirteen steps. -/
def freePlace? (table : Array (Option Scalar)) : Nat → Nat → Nat → Option Nat
  | 0, _, _ => none
  | fuel + 1, code, start =>
    match (row table.size start).find? fun place => (table[place]?).join.isNone with
    | some place => some place
    | none =>
      let code := code / 32
      freePlace? table fuel code ((5 * start + 1 + code) % table.size)

def put (table : Array (Option Scalar)) (member : Scalar × Nat) : Array (Option Scalar) :=
  let (s, code) := member
  match freePlace? table (table.size + 14) code (code % table.size) with
  | some place => table.setIfInBounds place (some s)
  | none => table

/-- The members of a set in the order in which they are listed, given in the order in which they
came. -/
def listed (members : List Scalar) : List Scalar :=
  match members.mapM fun s => (s.numeral?.bind code?).map fun code => (s, code) with
  | some coded =>
    (coded.foldl put (Array.replicate (tableSize coded.length) none)).toList.filterMap id
  | none => members

end SetOrder
end FormulaTex
