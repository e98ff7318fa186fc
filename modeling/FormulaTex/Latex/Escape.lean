import FormulaTex.Latex.Accent

/-!
# Escaped text

Text is set so that none of it acts as markup: every special character gets a backslash in front
of it. A text that starts with a decimal digit counts as a number. On request, characters outside
ASCII are replaced by legacy macros after the escaping.
-/

namespace FormulaTex
namespace Latex

/-- The characters that LaTeX would act on. The backslash is not among them. -/
def isSpecial (c : Char) : Bool :=
  ['&', '%', '$', '#', '_', '\x7b', '\x7d', '~', '^', '[', ']'].contains c

theorem of_isSpecial (p : Char → Prop) [DecidablePred p] {c : Char} (hs : isSpecial c)
    (h : ['&', '%', '$', '#', '_', '\x7b', '\x7d', '~', '^', '[', ']'].all (decide <| p ·)) :
    p c :=
  of_decide_eq_true (List.all_eq_true.1 h c (List.contains_iff_mem.1 hs))

def escapeChar (c : Char) : List Char :=
  if isSpecial c then ['\\', c] else [c]

def escape (text : List Char) : List Char :=
  text.flatMap escapeChar

@[simp] theorem escape_nil : escape [] = [] := rfl

def isAscii (text : List Char) : Bool :=
  text.all fun c => decide (c.toNat < 0x80)

theorem toNat_lt_of_isSpecial {c : Char} (hs : isSpecial c) : c.toNat < 0x80 :=
  of_isSpecial (·.toNat < 0x80) hs rfl

theorem isAscii_escape (text : List Char) : isAscii (escape text) = isAscii text := by
  unfold isAscii escape
  rw [List.all_flatMap]
  congr 1
  funext c
  cases hs : isSpecial c with
  | true => simp [escapeChar, hs, toNat_lt_of_isSpecial hs]
  | false => simp [escapeChar, hs]

/-- Texts without a character outside ASCII are only escaped, whatever the accents. -/
def escapeText (legacyAccents : Bool) (text : String) : String :=
  let escaped := escape text.toList
  String.ofList (if legacyAccents && !isAscii escaped then Accent.convert escaped else escaped)

/-- Whether a text starts like a number. -/
def isNumeric (text : String) : Bool :=
  match text.toList with
  | [] => false
  | c :: _ => c.isDigit

end Latex
end FormulaTex
