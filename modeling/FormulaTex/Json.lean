import FormulaTex.Json.Token
import FormulaTex.Value.Equality

/-!
# JSON documents

Reading a document is a walk over its tokens that keeps the collections around the present place
and what is expected there. The first token that is not expected is where the document fails. A
name that comes twice in a mapping keeps its first place and takes its last value.
-/

namespace FormulaTex
namespace Json

/-- A collection that waits for a value: the items before it, latest first, or the entries before
it and its name. -/
inductive Frame where
  | item (before : List Value)
  | entry (before : List (Scalar × Value)) (name : String)

/-- What the next token has to be. -/
inductive Expected where
  | value
  | firstItem
  | itemEnd (items : List Value)
  | firstName
  | name (entries : List (Scalar × Value))
  | colon (entries : List (Scalar × Value)) (name : String)
  | entryEnd (entries : List (Scalar × Value))
  | nothing (result : Value)

structure State where
  frames : List Frame
  expected : Expected

/-- How many collections may stand within one another. -/
def nestingLimit : Nat := 1000

namespace State

def start : State := ⟨[], .value⟩

/-- Hands a finished value to the collection that waits for it. -/
def give (value : Value) : List Frame → State
  | [] => ⟨[], .nothing value⟩
  | .item before :: frames => ⟨frames, .itemEnd (value :: before)⟩
  | .entry before name :: frames => ⟨frames, .entryEnd (insertEntry (.str name) value before)⟩

/-- Why a step fails: a problem at an offset, or a limit. -/
inductive Failure where
  | problem (kind : Problem) (offset : Nat)
  | longInteger (digits : Nat)
  | tooDeep

def opened (frames : List Frame) (expected : Expected) : Except Failure State :=
  if frames.length < nestingLimit then .ok ⟨frames, expected⟩ else .error .tooDeep

def takeValue (frames : List Frame) (offset : Nat) : Token → Except Failure State
  | .mark '[' => opened frames .firstItem
  | .mark '\x7b' => opened frames .firstName
  | .text content _ => .ok (give (.str content) frames)
  | .scalar s => .ok (give (.scalar s) frames)
  | .broken problem place => .error (.problem problem place)
  | .longInteger digits => .error (.longInteger digits)
  | _ => .error (.problem .noValue offset)

def takeName (frames : List Frame) (entries : List (Scalar × Value)) (offset : Nat) :
    Token → Except Failure State
  | .text name _ => .ok ⟨frames, .colon entries name⟩
  | .broken problem place => .error (.problem problem place)
  | _ => .error (.problem .noName offset)

def step (state : State) (token : Token) (offset : Nat) : Except Failure State :=
  match state.expected, token with
  | .value, token => takeValue state.frames offset token
  | .firstItem, .mark ']' => .ok (give (.list none []) state.frames)
  | .firstItem, token => takeValue (.item [] :: state.frames) offset token
  | .itemEnd items, .mark ']' => .ok (give (.list none items.reverse) state.frames)
  | .itemEnd items, .mark ',' => .ok ⟨.item items :: state.frames, .value⟩
  | .itemEnd _, _ => .error (.problem .noComma offset)
  | .firstName, .mark '\x7d' => .ok (give (.map none []) state.frames)
  | .firstName, token => takeName state.frames [] offset token
  | .name entries, token => takeName state.frames entries offset token
  | .colon entries name, .mark ':' => .ok ⟨.entry entries name :: state.frames, .value⟩
  | .colon _ _, _ => .error (.problem .noColon offset)
  | .entryEnd entries, .mark '\x7d' => .ok (give (.map none entries) state.frames)
  | .entryEnd entries, .mark ',' => .ok ⟨state.frames, .name entries⟩
  | .entryEnd _, _ => .error (.problem .noComma offset)
  | .nothing _, _ => .error (.problem .extraData offset)

/-- The value of a document that ends here. -/
def finish (state : State) (offset : Nat) : Except Failure Value :=
  match state.expected with
  | .nothing result => .ok result
  | .value | .firstItem => .error (.problem .noValue offset)
  | .firstName | .name _ => .error (.problem .noName offset)
  | .colon _ _ => .error (.problem .noColon offset)
  | .itemEnd _ | .entryEnd _ => .error (.problem .noComma offset)

def run (state : State) (offset : Nat) : List (Token × Nat) → Except Failure Value
  | [] => finish state offset
  | (token, place) :: rest => do run (← step state token place) offset rest

namespace Failure

def toFault (text : List Char) : Failure → Fault
  | problem kind offset => .malformed kind (.ofOffset text offset)
  | longInteger digits => .longInteger digits
  | tooDeep => .tooDeep

end Failure

end State

/-- The value of a document whose texts are whole. -/
def checkWhole (tokens : List (Token × Nat)) (value : Value) : Except Fault Value :=
  if tokens.all fun (token, _) => token.isWhole then .ok value else .error .surrogate

/-- Reads a document. -/
def read (text : List Char) : Except Fault Value :=
  if text.head? = some '\uFEFF' then .error (.malformed .byteOrderMark (.ofOffset text 0))
  else do
    let tokens := Token.scan text
    let value ← (State.start.run text.length tokens).mapError (State.Failure.toFault text)
    checkWhole tokens value

end Json
end FormulaTex
