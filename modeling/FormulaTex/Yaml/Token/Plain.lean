import FormulaTex.Yaml.Token.Quoted

/-!
# Plain scalars

Text without quotes. It ends at a colon or a comment that a gap sets off, at a line that is not
indented enough, and in a flow collection also at the marks of the collection. A line end within it
is folded as in quotes.
-/

namespace FormulaTex
namespace Yaml

/-- Marks of flow collections, which end a plain scalar there. -/
def isFlowMark (c : Char) : Bool :=
  [',', '?', '[', ']', '\x7b', '\x7d'].contains c

/-- Whether a plain scalar ends in front of the source. -/
def endsPlain (flow : Bool) (source : Source) : Bool :=
  match source.char? with
  | none => true
  | some c =>
    isSpace c || isBreak c || (flow && isFlowMark c)
      || (c = ':' && ((source.skip 1).atGap
        || (flow && (source.skip 1).starts fun d => d != '?' && isFlowMark d)))

/-- Characters up to the next gap or end. -/
def readPlainWord (flow : Bool) : Source → List Char × Source
  | [] => ([], [])
  | spot :: rest =>
    if endsPlain flow (spot :: rest) then ([], spot :: rest)
    else
      let (word, rest) := readPlainWord flow rest
      (spot.char :: word, rest)

/-- The blanks between two words of a plain scalar. -/
structure PlainGap where
  /-- The text that stands for the gap if another word follows. -/
  text : List Char
  crossesLine : Bool
  rest : Source

/-- Line ends and spaces in front of the next line with text. A line that looks like the start or
end of a document ends the scalar. -/
def readPlainLines : Nat → Source → Option (List Char) × Source
  | 0, source => (some [], source)
  | steps + 1, source =>
    if source.atDocumentMark then (none, source)
    else
      let rest := source.skipSpaces
      match rest.char? with
      | some c =>
        if isBreak c then
          let (breaks, rest) := readPlainLines steps (rest.skip 1)
          (breaks.map (c :: ·), rest)
        else (some [], rest)
      | none => (some [], rest)

def readPlainGap (source : Source) : PlainGap :=
  let rest := source.skipSpaces
  match rest.char? with
  | some c =>
    if isBreak c then
      let (breaks, rest) := readPlainLines source.length (rest.skip 1)
      ⟨(breaks.map (folded c)).getD [], true, rest⟩
    else ⟨source.takeChars (· = ' '), false, rest⟩
  | none => ⟨source.takeChars (· = ' '), false, rest⟩

/-- A plain scalar: its text, whether a line end comes behind it, and the source there. -/
structure Plain where
  text : List Char
  endsLine : Bool
  rest : Source

def readPlainFrom (flow : Bool) (indent : Nat) : Nat → Source → Plain
  | 0, source => ⟨[], false, source⟩
  | steps + 1, source =>
    let (word, rest) := readPlainWord flow source
    let gap := readPlainGap rest
    let outdented := !flow && (gap.rest.head?.any fun spot => decide (spot.column < indent))
    if gap.text.isEmpty || gap.rest.starts (· = '#') || outdented
        || endsPlain flow gap.rest then
      ⟨word, gap.crossesLine, gap.rest⟩
    else
      let more := readPlainFrom flow indent steps gap.rest
      ⟨word ++ gap.text ++ more.text, more.endsLine, more.rest⟩

/-- A plain scalar whose lines after the first are indented by at least `indent` columns. -/
def readPlain (flow : Bool) (indent : Nat) (source : Source) : Plain :=
  readPlainFrom flow indent source.length source

end Yaml
end FormulaTex
