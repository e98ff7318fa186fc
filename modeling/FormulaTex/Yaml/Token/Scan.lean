import FormulaTex.Yaml.Token.Block

/-!
# Scanning

The tokens of a source, in order. Indentation opens and closes block collections. Whether a node is
the key of a mapping is known only at the colon behind it, so the place of every node that could be
a key is remembered, one for each flow collection around it, and the key mark is put in front of it
later. A key stands on one line and has at most 1024 characters; one that must be a key, because of
its indentation, and is not makes the document malformed.
-/

namespace FormulaTex
namespace Yaml

/-- A node that could be a key: the number of tokens before it and its place. -/
structure KeyPlace where
  tokens : Nat
  isRequired : Bool
  spot : Spot
deriving Repr

/-- The tokens so far, latest first, with their number, and what reading on depends on. The columns
of the open block collections come innermost first. -/
structure Scanner where
  rest : Source
  done : List Token
  count : Nat
  columns : List Nat
  keyPlace : Option KeyPlace
  outerPlaces : List (Option KeyPlace)
  allowsKey : Bool

namespace Scanner

def start (source : Source) : Scanner := ⟨source, [], 0, [], none, [], true⟩

/-- Inside a flow collection. -/
def inFlow (s : Scanner) : Bool :=
  !s.outerPlaces.isEmpty

def push (token : Token) (s : Scanner) : Scanner :=
  { s with done := token :: s.done, count := s.count + 1 }

def withRest (rest : Source) (s : Scanner) : Scanner :=
  { s with rest }

def allowKey (allowed : Bool) (s : Scanner) : Scanner :=
  { s with allowsKey := allowed }

/-- Puts a token in front of the node at a key place. -/
def insertAt (place : KeyPlace) (token : Token) (s : Scanner) : Scanner :=
  { s with done := s.done.insertIdx (s.count - place.tokens) token, count := s.count + 1 }

def forgetKey (s : Scanner) : Except Fault Scanner :=
  match s.keyPlace with
  | some place => if place.isRequired then .error .malformed else .ok { s with keyPlace := none }
  | none => .ok s

/-- Remembers that a node which could be a key starts here. -/
def saveKey (spot : Spot) (s : Scanner) : Except Fault Scanner :=
  if s.allowsKey then do
    let s ← s.forgetKey
    let isRequired := !s.inFlow && s.columns.head? = some spot.column
    return { s with keyPlace := some ⟨s.count, isRequired, spot⟩ }
  else .ok s

def isStale (spot : Spot) (place : KeyPlace) : Bool :=
  place.spot.line != spot.line || decide (place.spot.index + 1024 < spot.index)

/-- Forgets the places that are too far back to be keys. -/
def dropStale (spot : Spot) (s : Scanner) : Except Fault Scanner :=
  let places := (s.keyPlace :: s.outerPlaces).filterMap id
  if places.any fun place => isStale spot place && place.isRequired then .error .malformed
  else
    let keep := fun (place : Option KeyPlace) => place.filter fun place => !isStale spot place
    .ok { s with keyPlace := keep s.keyPlace, outerPlaces := s.outerPlaces.map keep }

/-- Closes the block collections that are indented more than a column, or all of them. -/
def closeBlocks (column : Option Nat) (s : Scanner) : Scanner :=
  if s.inFlow then s
  else
    let isInner := fun (inner : Nat) => column.all fun c => decide (c < inner)
    let closed := s.columns.takeWhile isInner
    { s with
      done := closed.map (fun _ => Token.blockEnd) ++ s.done
      count := s.count + closed.length
      columns := s.columns.dropWhile isInner }

/-- Whether a block collection at a column would be inside all open ones. -/
def opensBlock (column : Nat) (s : Scanner) : Bool :=
  s.columns.head?.all fun outer => decide (outer < column)

def openBlock (column : Nat) (token : Token) (s : Scanner) : Scanner :=
  if s.opensBlock column then { s.push token with columns := column :: s.columns } else s

/-- A mark of a block collection: allowed only where a key may start. -/
def blockMark (column : Nat) (opening mark : Token) (s : Scanner) : Except Fault Scanner := do
  if !s.inFlow && !s.allowsKey then .error .malformed
  else
    let s := if s.inFlow then s else s.openBlock column opening
    let s ← s.forgetKey
    return (s.push mark).withRest (s.rest.skip 1)

def readEntry (spot : Spot) (s : Scanner) : Except Fault Scanner := do
  return (← s.blockMark spot.column .blockSequence .entry).allowKey true

def readKey (spot : Spot) (s : Scanner) : Except Fault Scanner := do
  return (← s.blockMark spot.column .blockMapping .key).allowKey !s.inFlow

/-- A colon makes the node in front of it a key, if that node could be one. -/
def readValue (spot : Spot) (s : Scanner) : Except Fault Scanner :=
  match s.keyPlace with
  | some place =>
    let s := ({ s with keyPlace := none }).insertAt place .key
    let s :=
      if !s.inFlow && s.opensBlock place.spot.column then
        { s.insertAt place .blockMapping with columns := place.spot.column :: s.columns }
      else s
    .ok (((s.allowKey false).push .value).withRest (s.rest.skip 1))
  | none => do
    return (← s.blockMark spot.column .blockMapping .value).allowKey !s.inFlow

def openFlow (spot : Spot) (token : Token) (s : Scanner) : Except Fault Scanner := do
  let s ← s.saveKey spot
  return { s.push token with
    rest := s.rest.skip 1, keyPlace := none
    outerPlaces := s.keyPlace :: s.outerPlaces, allowsKey := true }

def closeFlow (token : Token) (s : Scanner) : Except Fault Scanner := do
  let s ← s.forgetKey
  return { s.push token with
    rest := s.rest.skip 1
    keyPlace := s.outerPlaces.head?.join, outerPlaces := s.outerPlaces.drop 1, allowsKey := false }

def readComma (s : Scanner) : Except Fault Scanner := do
  let s ← s.forgetKey
  return ((s.push .comma).withRest (s.rest.skip 1)).allowKey true

/-- A token that starts a node and could start a key. -/
def readNode (spot : Spot) (read : Source → Except Fault (Token × Source)) (s : Scanner) :
    Except Fault Scanner := do
  let s ← s.saveKey spot
  let (token, rest) ← read s.rest
  return ((s.push token).withRest rest).allowKey false

def readNamed (token : String → Token) (source : Source) : Except Fault (Token × Source) := do
  let (name, rest) ← readAnchorName (source.skip 1)
  return (token name, rest)

def readPlainNode (spot : Spot) (s : Scanner) : Except Fault Scanner := do
  let s ← s.saveKey spot
  let indent := (s.columns.head?.map (· + 1)).getD 0
  let plain := readPlain s.inFlow indent s.rest
  return ((s.push (.scalar (String.ofList plain.text) true)).withRest plain.rest).allowKey
    plain.endsLine

def readBlockNode (isFolded : Bool) (s : Scanner) : Except Fault Scanner := do
  let s ← s.forgetKey
  let (token, rest) ← readBlock isFolded s.columns.head? s.rest
  return ((s.push token).withRest rest).allowKey true

/-- A token that stands outside all collections: a directive or the mark of a document. -/
def readOuter (read : Source → Except Fault (Token × Source)) (s : Scanner) :
    Except Fault Scanner := do
  let s ← (s.closeBlocks none).forgetKey
  let (token, rest) ← read s.rest
  return ((s.push token).withRest rest).allowKey false

/-- Characters that start no plain scalar, or only in front of text. -/
def isIndicator (c : Char) : Bool :=
  "-?:,[]\x7b\x7d#&*!|>\x27\x22%@\x60".toList.contains c

def startsPlain (flow : Bool) (source : Source) : Bool :=
  match source.char? with
  | none => false
  | some c =>
    (!isSpace c && !isBreak c && !isIndicator c)
      || (!(source.skip 1).atGap && (c = '-' || (!flow && (c = '?' || c = ':'))))

/-- Reads the token at a character. -/
def readToken (spot : Spot) (s : Scanner) : Except Fault Scanner :=
  let gap := (s.rest.skip 1).atGap
  let lineStart := spot.column == 0
  match spot.char with
  | '%' =>
    if lineStart then s.readOuter fun source => readDirective (source.skip 1) else .error .malformed
  | '[' => s.openFlow spot .flowSequence
  | '\x7b' => s.openFlow spot .flowMapping
  | ']' => s.closeFlow .flowSequenceEnd
  | '\x7d' => s.closeFlow .flowMappingEnd
  | ',' => s.readComma
  | '*' => s.readNode spot (readNamed .alias)
  | '&' => s.readNode spot (readNamed .anchor)
  | '!' => s.readNode spot readTag
  | '\x27' => s.readNode spot (readQuoted '\x27')
  | '\x22' => s.readNode spot (readQuoted '\x22')
  | c =>
    if lineStart && s.rest.atMark '-' then
      s.readOuter fun source => .ok (.documentStart, source.skip 3)
    else if lineStart && s.rest.atMark '.' then
      s.readOuter fun source => .ok (.documentEnd, source.skip 3)
    else if c = '-' && gap then s.readEntry spot
    else if c = '?' && (s.inFlow || gap) then s.readKey spot
    else if c = ':' && (s.inFlow || gap) then s.readValue spot
    else if c = '|' && !s.inFlow then s.readBlockNode false
    else if c = '>' && !s.inFlow then s.readBlockNode true
    else if startsPlain s.inFlow s.rest then s.readPlainNode spot
    else .error .malformed

/-- Skips spaces, comments and line ends. A new line may start with a key. No more steps are taken
than there are characters. -/
def skipGap : Nat → Scanner → Scanner
  | 0, s => s
  | steps + 1, s =>
    let rest := s.rest.skipSpaces.skipComment
    if rest.starts isBreak then
      skipGap steps { s with rest := rest.skip 1, allowsKey := s.allowsKey || !s.inFlow }
    else { s with rest }

def finish (s : Scanner) : Except Fault Scanner := do
  let s ← (s.closeBlocks none).forgetKey
  return s.push .streamEnd

/-- Reads up to the end of the stream or the first fault. Every step takes at least one
character. -/
def run : Nat → Scanner → List Token
  | 0, s => s.done.reverse
  | steps + 1, s =>
    let s := skipGap steps s
    match s.rest with
    | [] =>
      match s.finish with
      | .ok s => s.done.reverse
      | .error fault => (s.push (.broken fault)).done.reverse
    | spot :: _ =>
      match (s.dropStale spot).bind fun s => (s.closeBlocks (some spot.column)).readToken spot with
      | .ok s => run steps s
      | .error fault => (s.push (.broken fault)).done.reverse

end Scanner

/-- The tokens of a source. -/
def Token.scan (source : Source) : List Token :=
  (Scanner.start source).run (source.length + 1)

end Yaml
end FormulaTex
