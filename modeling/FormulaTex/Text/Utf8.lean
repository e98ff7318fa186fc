import FormulaTex.Text.Quoted

/-!
# UTF-8

Strict decoding of octets. The first sequence that is not well formed ends the decoding, and the
fault tells where it starts, which octets belong to it and what is wrong with it: an octet that
cannot start a character, an octet that does not continue one, or an end in its middle.
-/

namespace FormulaTex
namespace Text
namespace Utf8

inductive Reason where
  | invalidStart
  | invalidContinuation
  | unexpectedEnd
deriving DecidableEq, Repr

namespace Reason

def phrase : Reason → String
  | invalidStart => "invalid start byte"
  | invalidContinuation => "invalid continuation byte"
  | unexpectedEnd => "unexpected end of data"

end Reason

/-- An ill-formed sequence: where it starts, its first octet and its length. -/
structure Fault where
  position : Nat
  first : UInt8
  length : Nat
  reason : Reason
deriving DecidableEq, Repr

namespace Fault

def message (fault : Fault) : String :=
  if fault.length = 1 then
    "'utf-8' codec can't decode byte 0x" ++ String.ofList (hexDigits 2 fault.first.toNat)
      ++ " in position " ++ toString fault.position ++ ": " ++ fault.reason.phrase
  else
    "'utf-8' codec can't decode bytes in position " ++ toString fault.position ++ "-"
      ++ toString (fault.position + fault.length - 1) ++ ": " ++ fault.reason.phrase

end Fault

def isContinuation (b : UInt8) : Bool :=
  0x80 ≤ b && b < 0xC0

/-- The second octet is restricted after four of the first octets, which shuts out overlong
forms, surrogates and codes above the last plane. -/
def isSecond (first second : UInt8) : Bool :=
  isContinuation second
    && (first != 0xE0 || 0xA0 ≤ second) && (first != 0xED || second < 0xA0)
    && (first != 0xF0 || 0x90 ≤ second) && (first != 0xF4 || second < 0x90)

/-- The number that the payload bits of a sequence make up. -/
def join (head : Nat) (tail : List UInt8) : Char :=
  Char.ofNat (tail.foldl (fun n b => n * 64 + b.toNat % 64) head)

/-- Decodes from a position on; `done` holds the characters before it, the latest first. -/
def decodeFrom (position : Nat) (done : List Char) : List UInt8 → Except Fault (List Char)
  | [] => .ok done.reverse
  | a :: rest =>
    let fault := fun length reason => Except.error ⟨position, a, length, reason⟩
    if a < 0x80 then decodeFrom (position + 1) (Char.ofNat a.toNat :: done) rest
    else if a < 0xC2 || 0xF5 ≤ a then fault 1 .invalidStart
    else
      match rest with
      | [] => fault 1 .unexpectedEnd
      | b :: rest =>
        if !isSecond a b then fault 1 .invalidContinuation
        else if a < 0xE0 then
          decodeFrom (position + 2) (join (a.toNat - 0xC0) [b] :: done) rest
        else
          match rest with
          | [] => fault 2 .unexpectedEnd
          | c :: rest =>
            if !isContinuation c then fault 2 .invalidContinuation
            else if a < 0xF0 then
              decodeFrom (position + 3) (join (a.toNat - 0xE0) [b, c] :: done) rest
            else
              match rest with
              | [] => fault 3 .unexpectedEnd
              | d :: rest =>
                if !isContinuation d then fault 3 .invalidContinuation
                else decodeFrom (position + 4) (join (a.toNat - 0xF0) [b, c, d] :: done) rest

def decode (octets : List UInt8) : Except Fault (List Char) :=
  decodeFrom 0 [] octets

/-- The two- and one-character line ends of other systems become line feeds. -/
def unifyLineEnds : List Char → List Char
  | [] => []
  | '\r' :: '\n' :: rest => '\n' :: unifyLineEnds rest
  | '\r' :: rest => '\n' :: unifyLineEnds rest
  | c :: rest => c :: unifyLineEnds rest

/-- The text of a file: decoded, with every line end a line feed. -/
def readText (octets : List UInt8) : Except Fault String :=
  (decode octets).map fun cs => String.ofList (unifyLineEnds cs)

end Utf8
end Text
end FormulaTex
