import FormulaTex.Draft
import FormulaTex.Failure
import FormulaTex.Value.Equality

/-!
# Diagnostics

What a rendering tells beside its text: warnings, which are sentences, and events, which have a name
and data. A listener may ignore them, or write them to a log. One event is known and has a sentence
of its own; the others are logged with their data.
-/

namespace FormulaTex

namespace Diagnostics

/-- A remark on its way to a listener. -/
inductive Remark where
  | warning (message : String)
  | event (name : String) (payload : List (Scalar × Value))

def fallbackName : String := "symbol_fallback"

/-- The remark that a rendering makes with a note. -/
def Remark.ofNote : Note → Remark
  | .fallback tag => event fallbackName [(.str "tag", .str tag)]
  | .skipped typeName => warning ("Skipped unsupported node of type " ++ typeName)

/-- The tag in the data of an event; one that counts as false is not known. -/
def payloadTag (payload : List (Scalar × Value)) : String :=
  match field? "tag" payload with
  | some tag => if tag.isFalsy then "<unknown>" else tag.toText
  | none => "<unknown>"

/-- The sentence for an event, if it is known. -/
def eventMessage? (name : String) (payload : List (Scalar × Value)) : Option String :=
  if name = fallbackName then
    let tag := payloadTag payload
    some ("Unknown symbol '" ++ tag ++ "' rendered as \\" ++ tag)
  else none

inductive Level where
  | debug
  | info
  | warning
  | error
  | critical
deriving DecidableEq, Repr

namespace Level

def all : List Level := [debug, info, warning, error, critical]

def name : Level → String
  | debug => "DEBUG"
  | info => "INFO"
  | warning => "WARNING"
  | error => "ERROR"
  | critical => "CRITICAL"

def ofName? (name : String) : Option Level :=
  all.find? fun level => level.name == name

def rank : Level → Nat
  | debug => 10
  | info => 20
  | warning => 30
  | error => 40
  | critical => 50

end Level

/-- An entry of a log. -/
structure Record where
  level : Level
  message : String
  failureKind : Option String
deriving DecidableEq, Repr

namespace Record

def ofEvent (name : String) (payload : List (Scalar × Value)) : Record :=
  match eventMessage? name payload with
  | some message => ⟨.info, message, none⟩
  | none =>
    ⟨.debug, "diagnostic event " ++ name ++ ": " ++ (Value.map none payload).spelled, none⟩

def ofWarning (message : String) (failures : Failures) : Record :=
  ⟨.warning, message, failures.head?.map (·.kind.name)⟩

def ofRemark : Remark → Record
  | .warning message => ofWarning message []
  | .event name payload => ofEvent name payload

end Record

/-- Who listens to remarks. -/
inductive Listener where
  | none
  | log (threshold : Level)
deriving DecidableEq, Repr

/-- The records that reach the listener. -/
def Listener.receive (listener : Listener) (records : List Record) : List Record :=
  match listener with
  | .none => []
  | .log threshold => records.filter fun record => decide (threshold.rank ≤ record.level.rank)

end Diagnostics

end FormulaTex
