import FormulaTex.Yaml.Token.Name

/-!
# Quoted scalars

Text between single or double quotes. A single line end becomes a space, further ones are kept, and
blanks around line ends are dropped. Between single quotes only the quote itself is special and is
written twice; between double quotes a backslash starts an escape, and one at the end of a line
joins it to the next. A line inside the quotes must not look like the start or end of a document.
-/

namespace FormulaTex
namespace Yaml

def escaped? (c : Char) : Option Char :=
  match c with
  | '0' => some '\x00'
  | 'a' => some '\x07'
  | 'b' => some '\x08'
  | 't' => some '\t'
  | '\t' => some '\t'
  | 'n' => some '\n'
  | 'v' => some '\x0b'
  | 'f' => some '\x0c'
  | 'r' => some '\r'
  | 'e' => some '\x1b'
  | ' ' => some ' '
  | '\x22' => some '\x22'
  | '\\' => some '\\'
  | '/' => some '/'
  | 'N' => some '\u0085'
  | '_' => some '\u00a0'
  | 'L' => some '\u2028'
  | 'P' => some '\u2029'
  | _ => none

/-- The number of digits in an escape that gives a code. -/
def codeLength? (c : Char) : Option Nat :=
  match c with
  | 'x' => some 2
  | 'u' => some 4
  | 'U' => some 8
  | _ => none

/-- The character of a code. A surrogate has none. -/
def ofCode (code : Nat) : Except Fault Char :=
  if 0x7FFFFFFF < code then .error .codeTooLarge
  else if 0x10FFFF < code then .error .codeOutOfRange
  else if 0xD800 ≤ code ∧ code < 0xE000 then .error .surrogate
  else .ok (Char.ofNat code)

def readCode (length : Nat) (source : Source) : Except Fault Char :=
  let digits := (source.take length).map (·.char)
  if digits.length = length && digits.all fun c => (hexValue? c).isSome then
    ofCode (Number.ofDigits 16 (digits.filterMap hexValue?))
  else .error .malformed

/-- Empty lines, blanks and all, up to the next text. Every step takes a line. -/
def readEmptyLines : Nat → Source → Except Fault (List Char × Source)
  | 0, source => .ok ([], source)
  | steps + 1, source =>
    if source.atDocumentMark then .error .malformed
    else
      let rest := source.dropChars isSpace
      match rest.char? with
      | some c =>
        if isBreak c then do
          let (breaks, rest) ← readEmptyLines steps (rest.skip 1)
          return (c :: breaks, rest)
        else .ok ([], rest)
      | none => .ok ([], rest)

/-- The text that stands for a line end, given the line ends of the empty lines after it. -/
def folded (lineEnd : Char) (breaks : List Char) : List Char :=
  if lineEnd != '\n' then lineEnd :: breaks
  else if breaks.isEmpty then [' ']
  else breaks

/-- Blanks inside quotes, which vanish around line ends. -/
def readBlanks (source : Source) : Except Fault (List Char × Source) :=
  let rest := source.dropChars isSpace
  match rest.char? with
  | none => .error .malformed
  | some c =>
    if isBreak c then do
      let (breaks, rest) ← readEmptyLines source.length (rest.skip 1)
      return (folded c breaks, rest)
    else .ok (source.takeChars isSpace, rest)

/-- An escape behind its backslash. -/
def readEscape (source : Source) : Except Fault (List Char × Source) :=
  match source.char? with
  | none => .error .malformed
  | some c =>
    match escaped? c, codeLength? c with
    | some c, _ => .ok ([c], source.skip 1)
    | none, some length => do
      let c ← readCode length (source.skip 1)
      return ([c], source.skip (1 + length))
    | none, none =>
      if isBreak c then readEmptyLines source.length (source.skip 1) else .error .malformed

/-- Text up to the closing quote. Every step takes at least one character. -/
def readQuotedFrom (quote : Char) : Nat → Source → Except Fault (List Char × Source)
  | 0, _ => .error .malformed
  | steps + 1, source =>
    match source.char? with
    | none => .error .malformed
    | some c =>
      if c = quote then
        if quote = '\x27' && source.charAt? 1 = some quote then do
          let (text, rest) ← readQuotedFrom quote steps (source.skip 2)
          return (quote :: text, rest)
        else .ok ([], source.skip 1)
      else if c = '\\' && quote = '\x22' then do
        let (start, rest) ← readEscape (source.skip 1)
        let (text, rest) ← readQuotedFrom quote steps rest
        return (start ++ text, rest)
      else if isSpace c || isBreak c then do
        let (start, rest) ← readBlanks source
        let (text, rest) ← readQuotedFrom quote steps rest
        return (start ++ text, rest)
      else do
        let (text, rest) ← readQuotedFrom quote steps (source.skip 1)
        return (c :: text, rest)

/-- A quoted scalar, from its opening quote on. -/
def readQuoted (quote : Char) (source : Source) : Except Fault (Token × Source) := do
  let (text, rest) ← readQuotedFrom quote source.length (source.skip 1)
  return (.scalar (String.ofList text) false, rest)

end Yaml
end FormulaTex
