import FormulaTex.Number.Reading

/-!
# Faults of JSON documents

A document that breaks the grammar has a fault at one place, which messages give by line, column
and offset. Lines end at a line feed, and offsets count characters. Beside the grammar there are
two limits: on the nesting of a document and on the length of its integers. A document that keeps to
all that may still name a surrogate without its partner. It has no value here, since no text has
room for a surrogate.
-/

namespace FormulaTex
namespace Json

inductive Problem where
  | noValue
  | noName
  | noColon
  | noComma
  | extraData
  | openText
  | controlCharacter
  | escape
  | codeEscape
  | byteOrderMark
deriving DecidableEq, Repr

namespace Problem

def message : Problem → String
  | noValue => "Expecting value"
  | noName => "Expecting property name enclosed in double quotes"
  | noColon => "Expecting ':' delimiter"
  | noComma => "Expecting ',' delimiter"
  | extraData => "Extra data"
  | openText => "Unterminated string starting at"
  | controlCharacter => "Invalid control character at"
  | escape => "Invalid \\escape"
  | codeEscape => "Invalid \\uXXXX escape"
  | byteOrderMark => "Unexpected UTF-8 BOM (decode using utf-8-sig)"

end Problem

/-- A place in a document. Lines and columns count from one. -/
structure Position where
  line : Nat
  column : Nat
  offset : Nat
deriving DecidableEq, Repr

namespace Position

def ofOffset (text : List Char) (offset : Nat) : Position :=
  let before := text.take offset
  ⟨before.count '\n' + 1, (before.reverse.takeWhile (· != '\n')).length + 1, offset⟩

def phrase (position : Position) : String :=
  "line " ++ toString position.line ++ " column " ++ toString position.column ++ " (char "
    ++ toString position.offset ++ ")"

end Position

inductive Fault where
  | malformed (problem : Problem) (position : Position)
  | longInteger (digits : Nat)
  | tooDeep
  | surrogate
deriving DecidableEq, Repr

namespace Fault

def message : Fault → String
  | malformed problem position => problem.message ++ ": " ++ position.phrase
  | longInteger digits => (Number.Fault.tooLongToRead digits).message
  | tooDeep => "maximum recursion depth exceeded"
  | surrogate => "surrogates not allowed"

end Fault

end Json
end FormulaTex
