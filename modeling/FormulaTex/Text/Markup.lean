import FormulaTex.Text.Blank
import FormulaTex.Text.LowerCase

/-!
# Marked-up text

Words in square brackets are tags, which change the style of the text behind them and are not shown.
A tag whose name starts with a slash ends the latest open tag of that name, or with nothing behind
the slash the latest of all. One that finds nothing to end is a fault. Tags that are left open end
with the text. A backslash in front of a tag makes it text, and two of them are one.

This is as much as a plain display knows of marks: styles are told apart by their names alone, those
of several words word for word, and what a tag is to do when it is clicked is not looked at.
-/

namespace FormulaTex
namespace Text
namespace Markup

/-- What stands in brackets: a name and what follows its first equals sign. -/
structure Tag where
  name : List Char
  parameters : Option (List Char)
deriving DecidableEq, Repr

namespace Tag

def ofInside (inside : List Char) : Tag :=
  match inside.dropWhile (· != '=') with
  | [] => ⟨inside, none⟩
  | _ :: parameters => ⟨inside.takeWhile (· != '='), some parameters⟩

def toText (tag : Tag) : String :=
  "[" ++ String.ofList tag.name
    ++ (match tag.parameters with
      | none => ""
      | some parameters => "=" ++ String.ofList parameters)
    ++ "]"

end Tag

/-- A part of a text: characters as they are shown, or a tag and its place. Places count
characters. -/
inductive Part where
  | shown (text : List Char)
  | tag (place : Nat) (tag : Tag)
deriving DecidableEq, Repr

/-- Why a text cannot be shown: a tag ends one that is not open. -/
inductive Fault where
  | notOpen (place : Nat) (tag : Tag)
  | nothingOpen (place : Nat)
deriving DecidableEq, Repr

namespace Fault

def message : Fault → String
  | notOpen place tag =>
    "closing tag '" ++ tag.toText ++ "' at position " ++ toString place
      ++ " doesn't match any open tag"
  | nothingOpen place =>
    "closing tag '[/]' at position " ++ toString place ++ " has nothing to close"

end Fault

/-- Whether a tag may start with a character behind its opening bracket. -/
def startsTag (c : Char) : Bool :=
  ('a' ≤ c && c ≤ 'z') || ['#', '/', '@'].contains c

/-- A text up to its first closing bracket, unless an opening one comes before. -/
def inside? : List Char → Option (List Char)
  | [] => none
  | c :: rest =>
    if c = ']' then some []
    else if c = '[' then none
    else (inside? rest).map (c :: ·)

/-- The inside of the tag that a text starts with. -/
def tagInside? : List Char → Option (List Char)
  | '[' :: c :: rest => if startsTag c then inside? (c :: rest) else none
  | _ => none

/-- The number of backslashes that a text starts with. -/
def slashes (text : List Char) : Nat :=
  (text.takeWhile (· == '\\')).length

/-- A tag behind a number of backslashes. An odd one makes it text. -/
def tagParts (place slashes : Nat) (inside : List Char) : List Part :=
  let kept := List.replicate (slashes / 2) '\\'
  if slashes % 2 = 1 then [.shown (kept ++ '[' :: inside ++ [']'])]
  else [.shown kept, .tag (place + slashes) (.ofInside inside)]

/-- The parts of a text that starts at a place. The first characters, as many as `taken`, belong to
a part before. -/
def partsFrom (place taken : Nat) : List Char → List Part
  | [] => []
  | c :: rest =>
    match taken with
    | taken + 1 => partsFrom (place + 1) taken rest
    | 0 =>
      match tagInside? ((c :: rest).drop (slashes (c :: rest))) with
      | some inside =>
        let before := slashes (c :: rest)
        tagParts place before inside
          ++ partsFrom (place + 1) (before + inside.length + 1) rest
      | none =>
        -- The bracket starts no tag, and still takes the last backslash with it.
        if c = '\\' ∧ rest.head? = some '[' then
          .shown ['['] :: partsFrom (place + 1) 1 rest
        else .shown [c] :: partsFrom (place + 1) 0 rest

/-- The short names of styles. -/
def shortNames : List (String × String) := [
  ("b", "bold"), ("c", "conceal"), ("d", "dim"), ("i", "italic"), ("o", "overline"),
  ("r", "reverse"), ("s", "strike"), ("u", "underline"), ("uu", "underline2")]

def styleName (name : List Char) : List Char :=
  let own := lower (strip name)
  ((shortNames.lookup (String.ofList own)).map String.toList).getD own

/-- The characters that are shown of parts, while tags of the given styles are open, latest
first. -/
def showParts (opened : List (List Char)) : List Part → Except Fault (List Char)
  | [] => .ok []
  | .shown text :: rest => (showParts opened rest).map (text ++ ·)
  | .tag place tag :: rest =>
    match tag.name with
    | '/' :: name =>
      let style := styleName name
      if style.isEmpty then
        match opened with
        | [] => .error (.nothingOpen place)
        | _ :: opened => showParts opened rest
      else if opened.contains style then showParts (opened.erase style) rest
      else .error (.notOpen place tag)
    | name => showParts (styleName name :: opened) rest

/-- A marked-up text as it is shown. -/
def plain (text : String) : Except Fault String :=
  (showParts [] (partsFrom 0 0 text.toList)).map String.ofList

end Markup
end Text
end FormulaTex
