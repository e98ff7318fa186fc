import FormulaTex.Value.Spelling

/-!
# Drafts

A draft is what a walk over a tree, or a part of one, brings about: the notes for the reader, and
either the text or the fault that ended the walk. Drafts are put one after another. A draft with a
fault takes nothing after it, so its notes are those made before the fault.
-/

namespace FormulaTex

/-- A remark about a place that was rendered by a rule of last resort. -/
inductive Note where
  /-- The tag is in no table and was spelled as a macro. -/
  | fallback (tag : String)
  /-- A value that is no node was left out. -/
  | skipped (typeName : String)
deriving DecidableEq, Repr

inductive Arity where
  | unary
  | binary
deriving DecidableEq, Repr

namespace Arity

def word : Arity → String
  | unary => "unary"
  | binary => "binary"

end Arity

/-- Why a tree has no rendering. -/
inductive RenderFault where
  | tooDeep (limit : Nat)
  | unsupportedOperator (operator : Value) (arity : Arity)
  /-- The operator is not supported and holds an integer too long to be named. -/
  | unspellableOperator

namespace RenderFault

def depthMessage (limit : String) : String :=
  "Expression tree exceeds the maximum depth of " ++ limit

def operatorMessage (arity operator : String) : String :=
  "Unsupported " ++ arity ++ " operation: " ++ operator

def message : RenderFault → String
  | tooDeep limit => depthMessage (toString limit)
  | unsupportedOperator operator arity => operatorMessage arity.word operator.spelled
  | unspellableOperator => Number.Fault.tooLongToWrite.message

/-- The fault of an operator that is neither a symbol nor raw text. -/
def ofOperator (operator : Value) (arity : Arity) : RenderFault :=
  if operator.isSpellable then unsupportedOperator operator arity else unspellableOperator

/-- The same fault under another limit of depth. -/
def withLimit (limit : Nat) : RenderFault → RenderFault
  | tooDeep _ => tooDeep limit
  | fault => fault

end RenderFault

structure Draft where
  notes : List Note
  outcome : Except RenderFault String

namespace Draft

def empty : Draft := ⟨[], .ok ""⟩

def append (a b : Draft) : Draft :=
  match a.outcome with
  | .ok fragment => ⟨a.notes ++ b.notes, b.outcome.map (fragment ++ ·)⟩
  | .error _ => a

instance : Append Draft := ⟨append⟩

/-- The same draft under another limit of depth. -/
def withLimit (limit : Nat) (a : Draft) : Draft :=
  ⟨a.notes, a.outcome.mapError (·.withLimit limit)⟩

theorem append_def (a b : Draft) : a ++ b = append a b := rfl

@[simp] theorem empty_append (a : Draft) : empty ++ a = a := by
  obtain ⟨notes, outcome⟩ := a
  cases outcome <;> simp [append_def, append, empty, Except.map]

@[simp] theorem append_empty (a : Draft) : a ++ empty = a := by
  obtain ⟨notes, outcome⟩ := a
  cases outcome <;> simp [append_def, append, empty, Except.map]

theorem append_assoc (a b c : Draft) : a ++ b ++ c = a ++ (b ++ c) := by
  obtain ⟨m, s⟩ := a
  obtain ⟨n, t⟩ := b
  cases s <;> cases t <;>
    simp [append_def, append, Except.map, List.append_assoc, String.append_assoc]
  split <;> simp

end Draft

end FormulaTex
