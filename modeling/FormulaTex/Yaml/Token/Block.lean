import FormulaTex.Yaml.Token.Plain

/-!
# Block scalars

Text set off by indentation. Its header tells whether line ends are kept or folded, how many of the
last line ends stay, and, if need be, the indentation. Folding leaves alone lines that start with a
blank and the lines next to them.
-/

namespace FormulaTex
namespace Yaml

/-- What becomes of the line ends behind the last line: one stays, none stays, or all do. -/
inductive Chomping where
  | clip
  | strip
  | keep
deriving DecidableEq, Repr

structure BlockHeader where
  chomping : Chomping
  increment : Option Nat

def readChomping (source : Source) : Option Chomping :=
  match source.char? with
  | some '+' => some .keep
  | some '-' => some .strip
  | _ => none

/-- A digit that gives the indentation; zero gives none. -/
def readIncrement (source : Source) : Except Fault (Option Nat) :=
  match source.char? with
  | some c =>
    if c = '0' then .error .malformed
    else .ok (if c.isDigit then some (c.toNat - 0x30) else none)
  | none => .ok none

/-- The header of a block scalar up to the end of its line. Its two parts come in any order. -/
def readBlockHeader (source : Source) : Except Fault (BlockHeader × Source) := do
  let (header, rest) ← (do
    match readChomping source with
    | some chomping =>
      let rest := source.skip 1
      let increment ← readIncrement rest
      return (⟨chomping, increment⟩, rest.skip (if increment.isSome then 1 else 0))
    | none =>
      let increment ← readIncrement source
      let rest := source.skip (if increment.isSome then 1 else 0)
      match increment, readChomping rest with
      | some _, some chomping => return (⟨chomping, increment⟩, rest.skip 1)
      | _, _ => return (⟨.clip, increment⟩, rest) : Except Fault (BlockHeader × Source))
  if !rest.atStrictGap then .error .malformed
  else
    let rest := rest.skipSpaces.skipComment
    if rest.atLineEnd then return (header, rest.skip 1) else .error .malformed

/-- The line ends of empty lines in front of the text, and the text's indentation: that of the
most indented of these lines and the first line with text. -/
def blockIndentation (source : Source) : List Char × Nat × Source :=
  let blank := source.takeWhile fun spot => spot.char = ' ' || isBreak spot.char
  let spaces := blank.filter fun spot => spot.char = ' '
  ((blank.map (·.char)).filter isBreak, (spaces.map (·.column + 1)).foldl max 0,
    source.skip blank.length)

/-- The line ends of empty lines, with spaces up to an indentation. -/
def blockBreaks (indent : Nat) (source : Source) : List Char × Source :=
  let blank := source.takeWhile fun spot =>
    isBreak spot.char || (spot.char = ' ' && decide (spot.column < indent))
  ((blank.map (·.char)).filter isBreak, source.skip blank.length)

def isAtColumn (column : Nat) (source : Source) : Bool :=
  source.head?.any fun spot => spot.column == column

/-- What stands between two lines of a block scalar. -/
def lineJoint (isFolded : Bool) (line lineEnd breaks : List Char) (next : Source) : List Char :=
  if isFolded && lineEnd = ['\n'] && !(line.head?.any isSpace) && !(next.starts isSpace) then
    if breaks.isEmpty then [' '] else []
  else lineEnd

/-- The lines of a block scalar from the source on, which stands at the indentation, with the
line end of the last line and the line ends behind it. -/
def readBlockLines (isFolded : Bool) (indent : Nat) :
    Nat → Source → List Char × List Char × List Char × Source
  | 0, source => ([], [], [], source)
  | steps + 1, source =>
    let line := source.takeChars (!isBreak ·)
    let rest := source.skip line.length
    let lineEnd := (rest.take 1).map (·.char)
    let (breaks, rest) := blockBreaks indent (rest.skip 1)
    if isAtColumn indent rest then
      let (text, last, tail, after) := readBlockLines isFolded indent steps rest
      (line ++ lineJoint isFolded line lineEnd breaks rest ++ breaks ++ text, last, tail, after)
    else (line, lineEnd, breaks, rest)

/-- A block scalar, from its mark on, inside a collection that is indented by `parent` columns. -/
def readBlock (isFolded : Bool) (parent : Option Nat) (source : Source) :
    Except Fault (Token × Source) := do
  let (header, rest) ← readBlockHeader (source.skip 1)
  let least := max 1 ((parent.map (· + 1)).getD 0)
  let (breaks, indent, rest) :=
    match header.increment with
    | none =>
      let (breaks, found, rest) := blockIndentation rest
      (breaks, max least found, rest)
    | some n =>
      let indent := least + n - 1
      let (breaks, rest) := blockBreaks indent rest
      (breaks, indent, rest)
  let (text, lineEnd, tail, rest) :=
    if isAtColumn indent rest then
      let (text, lineEnd, tail, rest) := readBlockLines isFolded indent rest.length rest
      (breaks ++ text, lineEnd, tail, rest)
    else ([], [], breaks, rest)
  let text :=
    match header.chomping with
    | .clip => text ++ lineEnd
    | .strip => text
    | .keep => text ++ lineEnd ++ tail
  return (.scalar (String.ofList text) false, rest)

end Yaml
end FormulaTex
