/-!
# Sources

The characters of a YAML document with their places. Line ends of all kinds but the two Unicode
separators are line feeds. Columns count characters from the start of the line, byte order marks
apart, and a byte order mark at the start of a document does not belong to it.
-/

namespace FormulaTex
namespace Yaml

/-- A character with its place. The index counts all characters of the document. -/
structure Spot where
  char : Char
  index : Nat
  line : Nat
  column : Nat
deriving DecidableEq, Repr

abbrev Source := List Spot

/-- The characters that a document may hold. -/
def isAllowed (c : Char) : Bool :=
  let n := c.toNat
  c = '\t' || c = '\n' || c = '\r' || n == 0x85 || (decide (0x20 ≤ n) && decide (n ≤ 0x7E))
    || (decide (0xA0 ≤ n) && decide (n ≤ 0xFFFD)) || decide (0x10000 ≤ n)

def isBreak (c : Char) : Bool :=
  c = '\n' || c = '\u2028' || c = '\u2029'

def isSpace (c : Char) : Bool :=
  c = ' ' || c = '\t'

def isByteOrderMark (c : Char) : Bool :=
  c = '\uFEFF'

namespace Source

def locate (index line column : Nat) : List Char → Source
  | [] => []
  | '\r' :: '\n' :: rest => ⟨'\n', index, line, column⟩ :: locate (index + 2) (line + 1) 0 rest
  | c :: rest =>
    if c = '\r' || c = '\u0085' then
      ⟨'\n', index, line, column⟩ :: locate (index + 1) (line + 1) 0 rest
    else if isBreak c then ⟨c, index, line, column⟩ :: locate (index + 1) (line + 1) 0 rest
    else
      ⟨c, index, line, column⟩
        :: locate (index + 1) line (if isByteOrderMark c then column else column + 1) rest

/-- The source of a document, unless it holds a character that no document may hold. -/
def ofText? (text : List Char) : Option Source :=
  if text.all isAllowed then
    match locate 0 0 0 text with
    | [] => some []
    | spot :: rest => some (if isByteOrderMark spot.char then rest else spot :: rest)
  else none

def char? (source : Source) : Option Char :=
  source.head?.map (·.char)

def charAt? (source : Source) (n : Nat) : Option Char :=
  (source[n]?).map (·.char)

def skip (source : Source) (n : Nat) : Source :=
  source.drop n

/-- The source starts with a character that satisfies a condition. -/
def starts (source : Source) (condition : Char → Bool) : Bool :=
  source.char?.any condition

/-- The source ends here, or a blank or a line end comes next. -/
def atGap (source : Source) : Bool :=
  source.char?.all fun c => isSpace c || isBreak c

/-- The source ends here, or a space or a line end comes next. A tab is no gap after a tag or a
directive. -/
def atStrictGap (source : Source) : Bool :=
  source.char?.all fun c => c = ' ' || isBreak c

def atLineEnd (source : Source) : Bool :=
  source.char?.all isBreak

def takeChars (source : Source) (condition : Char → Bool) : List Char :=
  (source.takeWhile fun spot => condition spot.char).map (·.char)

def dropChars (source : Source) (condition : Char → Bool) : Source :=
  source.dropWhile fun spot => condition spot.char

def skipSpaces (source : Source) : Source :=
  source.dropChars (· = ' ')

/-- Skips a comment up to the end of its line. -/
def skipComment (source : Source) : Source :=
  if source.starts (· = '#') then source.dropChars (!isBreak ·) else source

/-- A mark of three characters that starts or ends a document. -/
def atMark (source : Source) (c : Char) : Bool :=
  source.charAt? 0 = some c && source.charAt? 1 = some c && source.charAt? 2 = some c
    && (source.skip 3).atGap

def atDocumentMark (source : Source) : Bool :=
  source.atMark '-' || source.atMark '.'

end Source

end Yaml
end FormulaTex
