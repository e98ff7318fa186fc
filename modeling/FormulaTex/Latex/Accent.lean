import FormulaTex.Latex.Accent.Macros
import FormulaTex.Text.Blank
import FormulaTex.Text.Composition

/-!
# Legacy accents

Characters outside ASCII are replaced by macros. A macro whose name is all letters would swallow
the letter after it, so it is put in braces. In a last step the argument of every accent command
gets braces of its own.

The last step works on the whole text, in two passes. The first puts braces around a letter that
follows a one-character accent command, the second around a dotless letter; blanks between command
and argument are dropped. Both passes go from left to right, and what one match has taken is not
looked at again.
-/

namespace FormulaTex
namespace Latex
namespace Accent

open Text

def isLetter (c : Char) : Bool :=
  c.isUpper || c.isLower

/-- What follows the last backslash of a text, or the whole text if it has none. -/
def afterLastBackslash (text : List Char) : List Char :=
  (text.reverse.takeWhile (· != '\\')).reverse

/-- A macro that ends in a name of letters alone is put in braces. -/
def guardMacro (text : List Char) : List Char :=
  let name := afterLastBackslash text
  if text.contains '\\' && !name.isEmpty && name.all isLetter then
    '\x7b' :: text ++ ['\x7d']
  else text

/-- The text that stands for a character. Characters without a macro stand for themselves. -/
def fragment (c : Char) : List Char :=
  if c.toNat < 0x7F then [c]
  else
    match macros.lookup c.toNat with
    | some text => guardMacro text.toList
    | none => [c]

def encode (text : List Char) : List Char :=
  (Composition.normalize text).flatMap fragment

/-- One-character accent commands. The backslash is one of them. -/
def isCommand (c : Char) : Bool :=
  ['\x60', '\x27', '^', '\x22', '~', '=', '\\', '.', 'H', 'r', 'u', 'v', 'c', 'k'].contains c

/-- The letter that follows an accent command, blanks apart, unless a brace follows it, with the
text after it. -/
def letterArgument? (text : List Char) : Option (List Char × List Char) :=
  match text.dropWhile isBlank with
  | [] => none
  | c :: rest => if isLetter c && rest.head? != some '\x7b' then some ([c], rest) else none

/-- The dotless letter that follows an accent command, blanks apart, with the text after it. -/
def dotlessArgument? (text : List Char) : Option (List Char × List Char) :=
  match text.dropWhile isBlank with
  | '\\' :: c :: rest => if c = 'i' ∨ c = 'j' then some (['\\', c], rest) else none
  | _ => none

/-- Puts braces around the arguments that `argument?` finds. The length bounds the number of
steps, since every step takes at least one character. -/
def braceFrom (argument? : List Char → Option (List Char × List Char)) :
    Nat → List Char → List Char
  | 0, text => text
  | _ + 1, [] => []
  | steps + 1, c :: rest =>
    match c, rest with
    | '\\', command :: after =>
      if isCommand command then
        match argument? after with
        | some (arg, tail) =>
          '\\' :: command :: '\x7b' :: arg ++ '\x7d' :: braceFrom argument? steps tail
        | none => '\\' :: braceFrom argument? steps rest
      else '\\' :: braceFrom argument? steps rest
    | c, rest => c :: braceFrom argument? steps rest

def brace (argument? : List Char → Option (List Char × List Char)) (text : List Char) :
    List Char :=
  braceFrom argument? text.length text

/-- Braces around the argument of every accent command. -/
def braceArguments (text : List Char) : List Char :=
  brace dotlessArgument? (brace letterArgument? text)

def convert (text : List Char) : List Char :=
  braceArguments (encode text)

end Accent
end Latex
end FormulaTex
