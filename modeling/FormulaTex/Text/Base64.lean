/-!
# Base 64

Lenient decoding: characters outside the alphabet are ignored, and nothing is read behind padding
that completes a group. A group that is neither complete nor padded is a fault.
-/

namespace FormulaTex
namespace Text
namespace Base64

def alphabet : List Char :=
  "ABCDEFGHIJKLMNOPQRSTUVWXYZabcdefghijklmnopqrstuvwxyz0123456789+/".toList

def digit? (c : Char) : Option Nat :=
  alphabet.findIdx? (· == c)

/-- Decodes from inside a group: `group` holds its digits so far, the latest first, and `pads`
counts the padding since the last of them. -/
def decodeFrom (group : List Nat) (pads : Nat) : List Char → Option (List UInt8)
  | [] => if group.isEmpty then some [] else none
  | c :: rest =>
    if c = '=' then
      if 2 ≤ group.length && 4 ≤ group.length + pads + 1 then some []
      else decodeFrom group (if 2 ≤ group.length then pads + 1 else pads) rest
    else
      match digit? c with
      | none => decodeFrom group pads rest
      | some d =>
        match group with
        | [] => decodeFrom [d] 0 rest
        | [a] => (decodeFrom [d, a] 0 rest).map (UInt8.ofNat (a * 4 + d / 16) :: ·)
        | [b, a] => (decodeFrom [d, b, a] 0 rest).map (UInt8.ofNat (b % 16 * 16 + d / 4) :: ·)
        | last :: _ => (decodeFrom [] 0 rest).map (UInt8.ofNat (last % 4 * 64 + d) :: ·)

def decode? (text : List Char) : Option (List UInt8) :=
  decodeFrom [] 0 text

end Base64
end Text
end FormulaTex
