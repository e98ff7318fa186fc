import FormulaTex.Text.Utf8
import FormulaTex.Yaml.Token

/-!
# Names, tags and directives

Anchors and aliases have names of letters, digits, hyphens and underscores. A tag is a handle with
a suffix, or a whole tag between angle brackets; characters in it may be given by their octets. A
directive stands at the start of a line and tells the version or expands a handle.
-/

namespace FormulaTex
namespace Yaml

open Text

def isNameChar (c : Char) : Bool :=
  c.isAlphanum || c = '-' || c = '_'

def isTagChar (c : Char) : Bool :=
  c.isAlphanum || ";/?:@&=+$,_.!~*\x27()[]%-".toList.contains c

def readName (source : Source) : Except Fault (String × Source) :=
  let name := source.takeChars isNameChar
  if name.isEmpty then .error .malformed
  else .ok (String.ofList name, source.skip name.length)

/-- A name after the mark of an anchor or alias, with what may follow it. -/
def readAnchorName (source : Source) : Except Fault (String × Source) := do
  let (name, rest) ← readName source
  if rest.atGap || rest.starts fun c => "?:,]\x7d%@\x60".toList.contains c then .ok (name, rest)
  else .error .malformed

def hexValue? (c : Char) : Option Nat :=
  if c.isDigit then some (c.toNat - 0x30)
  else if 'a' ≤ c ∧ c ≤ 'f' then some (c.toNat - 0x57)
  else if 'A' ≤ c ∧ c ≤ 'F' then some (c.toNat - 0x37)
  else none

/-- The octets given by percent signs with two hexadecimal digits each. -/
def readOctets : Source → Except Fault (List UInt8 × Source)
  | mark :: high :: low :: rest =>
    if mark.char = '%' then
      match hexValue? high.char, hexValue? low.char with
      | some h, some l => do
        let (octets, rest) ← readOctets rest
        return (UInt8.ofNat (h * 16 + l) :: octets, rest)
      | _, _ => .error .malformed
    else .ok ([], mark :: high :: low :: rest)
  | source => if source.starts (· = '%') then .error .malformed else .ok ([], source)

/-- The characters of a tag, escapes decoded. Every step takes at least one character. -/
def readTagText : Nat → Source → Except Fault (List Char × Source)
  | 0, source => .ok ([], source)
  | _, [] => .ok ([], [])
  | steps + 1, spot :: rest =>
    if spot.char = '%' then do
      let (octets, rest) ← readOctets (spot :: rest)
      match Utf8.decode octets with
      | .error _ => .error .malformed
      | .ok chars => do
        let (more, rest) ← readTagText steps rest
        return (chars ++ more, rest)
    else if isTagChar spot.char then do
      let (more, rest) ← readTagText steps rest
      return (spot.char :: more, rest)
    else .ok ([], spot :: rest)

def readTagUri (source : Source) : Except Fault (String × Source) := do
  if source.starts isTagChar then
    let (text, rest) ← readTagText source.length source
    return (String.ofList text, rest)
  else .error .malformed

/-- A handle: an exclamation mark, or a name between two. -/
def readHandle (source : Source) : Except Fault (String × Source) :=
  let body := source.skip 1
  let name := body.takeChars isNameChar
  let after := body.skip name.length
  if !source.starts (· = '!') then .error .malformed
  else if body.starts (· = ' ') then .ok ("!", body)
  else if after.starts (· = '!') then .ok ("!" ++ String.ofList name ++ "!", after.skip 1)
  else .error .malformed

/-- Whether a second exclamation mark comes before the next gap. -/
def hasHandle (source : Source) : Bool :=
  (source.takeChars fun c => !(c = ' ' || isBreak c)).contains '!'

/-- A tag, from its exclamation mark on. -/
def readTag (source : Source) : Except Fault (Token × Source) := do
  let body := source.skip 1
  let (token, rest) ← (do
    if body.starts (· = '<') then
      let (suffix, rest) ← readTagUri (body.skip 1)
      if rest.starts (· = '>') then return (Token.tag none suffix, rest.skip 1)
      else .error .malformed
    else if body.atGap then return (.tag none "!", body)
    else
      let (handle, rest) ← if hasHandle body then readHandle source else .ok ("!", body)
      let (suffix, rest) ← readTagUri rest
      return (.tag (some handle) suffix, rest) : Except Fault (Token × Source))
  if rest.atStrictGap then return (token, rest) else .error .malformed

def readVersionNumber (source : Source) : Except Fault (Nat × Source) := do
  let digits := source.takeChars Char.isDigit
  if digits.isEmpty then .error .malformed
  else
    let n ← (Number.readInt 10 digits).mapError .number
    return (n.toNat, source.skip digits.length)

def readVersion (source : Source) : Except Fault (Token × Source) := do
  let (major, rest) ← readVersionNumber source.skipSpaces
  if rest.starts (· = '.') then
    let (_, rest) ← readVersionNumber (rest.skip 1)
    if rest.atStrictGap then return (.version major, rest) else .error .malformed
  else .error .malformed

def readExpansion (source : Source) : Except Fault (Token × Source) := do
  let (name, rest) ← readHandle source.skipSpaces
  if rest.starts (· = ' ') then
    let (expansion, rest) ← readTagUri rest.skipSpaces
    if rest.atStrictGap then return (.handle name expansion, rest) else .error .malformed
  else .error .malformed

/-- A directive, behind its percent sign, up to the end of its line. -/
def readDirective (source : Source) : Except Fault (Token × Source) := do
  let (name, rest) ← readName source
  if !rest.atStrictGap then .error .malformed
  else
    let (token, rest) ←
      if name = "YAML" then readVersion rest
      else if name = "TAG" then readExpansion rest
      else .ok (.directive, rest.dropChars (!isBreak ·))
    let rest := rest.skipSpaces.skipComment
    if rest.atLineEnd then return (token, rest.skip 1) else .error .malformed

end Yaml
end FormulaTex
