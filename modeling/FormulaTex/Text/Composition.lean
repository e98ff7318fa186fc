import FormulaTex.Text.Composition.Table

/-!
# Canonical composition

A text is brought into composed normal form in three steps: every character is decomposed, the
marks that follow a base character are put into the order of their combining classes, and each
mark that is not cut off from its base by a mark of its own class or higher is joined to it where
a composite exists. Hangul syllables follow their arithmetic rule.
-/

namespace FormulaTex
namespace Text
namespace Composition

/-- The combining class of a code point; base characters have class zero. -/
def combiningClass (code : Nat) : Nat :=
  match marks.find? fun (first, last, _) => decide (first ≤ code) && decide (code ≤ last) with
  | some (_, _, k) => k
  | none => 0

/-- The parts of a Hangul syllable: leading consonant, vowel and, if it has one, tail. -/
def hangulParts? (code : Nat) : Option (List Nat) :=
  if 0xAC00 ≤ code ∧ code ≤ 0xD7A3 then
    let i := code - 0xAC00
    let lead := 0x1100 + i / 588
    let vowel := 0x1161 + i % 588 / 28
    if i % 28 = 0 then some [lead, vowel] else some [lead, vowel, 0x11A7 + i % 28]
  else none

/-- One step of decomposition. -/
def parts? (code : Nat) : Option (List Nat) :=
  match composites.find? (·.1 == code) with
  | some (_, base, mark) => some [base, mark]
  | none => (replacements.find? (·.1 == code)).map (·.2)

/-- Decomposition of one code point. No character of the tables takes more than four steps. -/
def decomposeCode : Nat → Nat → List Nat
  | 0, code => [code]
  | steps + 1, code =>
    match parts? code with
    | none => [code]
    | some parts => parts.flatMap (decomposeCode steps)

/-- ASCII is left alone without a look at the tables. -/
def decompose (code : Nat) : List Nat :=
  if code < 0x80 then [code]
  else (hangulParts? code).getD (decomposeCode 4 code)

/-- Puts a mark behind those of its class or lower. -/
def insertMark (mark : Nat) : List Nat → List Nat
  | [] => [mark]
  | m :: ms =>
    if combiningClass mark < combiningClass m then mark :: m :: ms else m :: insertMark mark ms

def sortMarks (marks : List Nat) : List Nat :=
  marks.foldl (fun sorted m => insertMark m sorted) []

/-- Orders each maximal run of marks; `held` is the run being read. -/
def orderFrom (held : List Nat) : List Nat → List Nat
  | [] => sortMarks held
  | code :: rest =>
    if combiningClass code = 0 then sortMarks held ++ code :: orderFrom [] rest
    else orderFrom (held ++ [code]) rest

def order (codes : List Nat) : List Nat :=
  orderFrom [] codes

/-- The composite of two code points. -/
def pair? (base mark : Nat) : Option Nat :=
  if 0x1100 ≤ base ∧ base ≤ 0x1112 ∧ 0x1161 ≤ mark ∧ mark ≤ 0x1175 then
    some (0xAC00 + ((base - 0x1100) * 21 + (mark - 0x1161)) * 28)
  else if 0xAC00 ≤ base ∧ base ≤ 0xD7A3 ∧ (base - 0xAC00) % 28 = 0
      ∧ 0x11A8 ≤ mark ∧ mark ≤ 0x11C2 then
    some (base + (mark - 0x11A7))
  else
    (composites.find? fun (_, b, m) => b == base && m == mark).map (·.1)

/-- Composes what follows a base character. `skipped` are the marks that stay behind it, in
reading order, and `last` is the class of the latest of them. -/
def composeAfter (base : Nat) (skipped : List Nat) (last : Nat) : List Nat → List Nat
  | [] => base :: skipped
  | code :: rest =>
    let k := combiningClass code
    let joined := if last < k || skipped.isEmpty then pair? base code else none
    match joined with
    | some composite => composeAfter composite skipped last rest
    | none =>
      if k = 0 then base :: skipped ++ composeAfter code [] 0 rest
      else composeAfter base (skipped ++ [code]) k rest

/-- Marks before the first base character stay as they are. -/
def compose : List Nat → List Nat
  | [] => []
  | code :: rest =>
    if combiningClass code = 0 then composeAfter code [] 0 rest else code :: compose rest

/-- The composed normal form of a text. -/
def normalize (text : List Char) : List Char :=
  (compose (order (text.flatMap fun c => decompose c.toNat))).map Char.ofNat

end Composition
end Text
end FormulaTex
