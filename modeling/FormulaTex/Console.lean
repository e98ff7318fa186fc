import FormulaTex.Diagnostics
import FormulaTex.Text.Markup
import FormulaTex.Text.Terminal

/-!
# The console

Messages of a command. How they are laid out is up to a display. How much they tell depends on the
state of the command that runs: its verbosity, and whether it shows where a failure came from. The
state is kept with the command's context; commands within one another share the state of the
outermost one that has any. Outside of all contexts the state used last counts.
-/

namespace FormulaTex

/-- How texts are laid out for reading: the rows into which a line is broken to fit, and the entry
that a text makes in a log. A marked-up text is shown without its marks, unless they are faulty. -/
structure Display where
  rows : List Char → List (List Char)
  entry : String → String
  unmarked : String → Except String String

/-- The display that breaks no lines and keeps an undated log. -/
def Display.plain : Display where
  rows := Text.Terminal.oneRow
  entry text := Text.Terminal.shown Text.Terminal.oneRow ("log: " ++ text)
  unmarked text := (Text.Markup.plain text).mapError Text.Markup.Fault.message

namespace Console

structure State where
  verbosity : Nat := 0
  showsTraces : Bool := false
deriving DecidableEq, Repr, Inhabited

/-- The lines that tell about a failure behind a message: its kind, its causes and, at the second
level of verbosity, its constructor form. -/
def details (state : State) (failures : Failures) : List String :=
  match failures with
  | [] => []
  | failure :: _ =>
    if state.verbosity = 0 then []
    else
      ["type: " ++ failure.kind.name]
        ++ ((failures.messages.drop 1).map fun line => "caused by: " ++ line)
        ++ (if state.verbosity = 1 then [] else ["repr: " ++ failure.spelled])

/-- The text of a message. Messages of the level `info` are entries of a log and tell nothing about
a failure. -/
def message (display : Display) (state : State) (level text : String) (failures : Failures) :
    String :=
  if level = "info" then display.entry text
  else
    Text.Terminal.shown display.rows
      ("\n".intercalate ((level ++ ": " ++ text) :: details state failures))

/-- The text of an event, which is shown only on request. -/
def eventText (state : State) (name : String) (payload : List (Scalar × Value)) : Option String :=
  if state.verbosity = 0 then none else Diagnostics.eventMessage? name payload

/-- A context of a command. -/
structure Context where
  parent : Option Nat
  state : Option Nat
deriving DecidableEq, Repr

end Console

/-- All states ever made and all contexts, with the contexts that commands are running in,
innermost first, and the state used last. -/
structure Console where
  states : List Console.State
  contexts : List Console.Context
  running : List Nat
  latest : Option Nat
deriving Repr

namespace Console

def start : Console := ⟨[], [], [], none⟩

/-- A new context inside another one, or on its own. -/
def addContext (parent : Option Nat) (c : Console) : Nat × Console :=
  (c.contexts.length, { c with contexts := c.contexts ++ [⟨parent, none⟩] })

def enter (context : Nat) (c : Console) : Console :=
  { c with running := context :: c.running }

def leave (c : Console) : Console :=
  { c with running := c.running.drop 1 }

/-- The state of the nearest context that has one, from a context outwards. The number of contexts
bounds the number of steps. -/
def nearest (c : Console) : Nat → Nat → Option Nat
  | 0, _ => none
  | steps + 1, context =>
    match c.contexts[context]? with
    | none => none
    | some ⟨_, some state⟩ => some state
    | some ⟨some parent, none⟩ => nearest c steps parent
    | some ⟨none, none⟩ => none

def newState (c : Console) : Nat × Console :=
  (c.states.length, { c with states := c.states ++ [{}] })

def keep (context state : Nat) (c : Console) : Console :=
  { c with contexts := c.contexts.modify context fun x => { x with state := some state } }

def useState (state : Nat) (c : Console) : Nat × Console :=
  (state, { c with latest := some state })

/-- The state of a context, or of the command that is running, or else the one used last. A state
that is not there yet is made and kept with the context. -/
def get (context : Option Nat) (c : Console) : Nat × Console :=
  match context.or c.running.head? with
  | some context =>
    match c.nearest c.contexts.length context with
    | some state => c.useState state
    | none =>
      let (state, c) := c.newState
      (c.keep context state).useState state
  | none =>
    match c.latest with
    | some state => (state, c)
    | none =>
      let (state, c) := c.newState
      c.useState state

def stateAt (c : Console) (state : Nat) : State :=
  c.states.getD state {}

/-- Changes the fields that are given. A negative verbosity counts as none. -/
def State.set (verbosity : Option Int) (showsTraces : Option Bool) (s : State) : State :=
  ⟨(verbosity.map Int.toNat).getD s.verbosity, showsTraces.getD s.showsTraces⟩

def set (context : Option Nat) (verbosity : Option Int) (showsTraces : Option Bool)
    (c : Console) : Nat × Console :=
  let (state, c) := c.get context
  (state, { c with states := c.states.modify state (State.set verbosity showsTraces) })

/-- Whether the state used last shows traces. -/
def showsTraces (c : Console) : Bool :=
  (c.latest.map fun state => (c.stateAt state).showsTraces).getD false

/-- Writes a message in the state of the command that is running. -/
def write (display : Display) (level text : String) (failures : Failures) (c : Console) :
    String × Console :=
  let (state, c) := c.get none
  (message display (c.stateAt state) level text failures, c)

/-- Passes an event on to the listener of a state. -/
def writeEvent (display : Display) (state : Nat) (name : String) (payload : List (Scalar × Value))
    (c : Console) : String × Console :=
  match eventText (c.stateAt state) name payload with
  | some text => c.write display "info" text []
  | none => ("", c)

/-- Passes a remark on to the listener of a state. Warnings are always shown. -/
def writeRemark (display : Display) (state : Nat) (remark : Diagnostics.Remark) (c : Console) :
    String × Console :=
  match remark with
  | .warning message => c.write display "warning" message []
  | .event name payload => c.writeEvent display state name payload

end Console

end FormulaTex
