import FormulaTex.Draft

/-!
# Passes over a tree

A pass is one walk over a tree. It writes the text piece by piece, makes notes for the reader, and
counts the levels of depth that it is in. A walk that meets a fault stops at once: what it has
written is given up, and the notes that it has made stay.
-/

namespace FormulaTex

/-- Where a walk stands. -/
structure Pass where
  text : String
  notes : List Note
  depth : Nat
deriving DecidableEq, Repr

namespace Pass

def start : Pass := ⟨"", [], 0⟩

end Pass

/-- What is left of a walk that has met a fault. -/
structure Stop where
  fault : RenderFault
  notes : List Note

/-- A part of a walk. -/
abbrev Walk := StateT Pass (Except Stop) Unit

namespace Walk

def write (fragment : String) : Walk :=
  modify fun pass => { pass with text := pass.text ++ fragment }

def remark (note : Note) : Walk :=
  modify fun pass => { pass with notes := pass.notes ++ [note] }

def stop (fault : RenderFault) : Walk := do
  throw ⟨fault, (← get).notes⟩

/-- A part of a walk that stands in a brace group. -/
def braced (body : Walk) : Walk := do
  write "\x7b"
  body
  write "\x7d"

/-- A part of a walk that takes one level of depth more, of which there are at most `limit`. -/
def nested (limit : Nat) (body : Walk) : Walk := do
  modify fun pass => { pass with depth := pass.depth + 1 }
  if limit < (← get).depth then stop (.tooDeep limit)
  body
  modify fun pass => { pass with depth := pass.depth - 1 }

/-- What a whole walk brings about. -/
def draft (walk : Walk) : Draft :=
  match walk.run .start with
  | .ok (_, pass) => ⟨pass.notes, .ok pass.text⟩
  | .error stop => ⟨stop.notes, .error stop.fault⟩

theorem run_write (fragment : String) (p : Pass) :
    (write fragment).run p = .ok ((), { p with text := p.text ++ fragment }) := rfl

theorem run_remark (note : Note) (p : Pass) :
    (remark note).run p = .ok ((), { p with notes := p.notes ++ [note] }) := rfl

theorem run_stop (fault : RenderFault) (p : Pass) :
    (stop fault).run p = .error ⟨fault, p.notes⟩ := rfl

theorem run_bind (first second : Walk) (p : Pass) :
    (first >>= fun _ => second).run p = first.run p >>= fun a => second.run a.2 := rfl

/-- A level that is allowed is left again, and one that is not is never taken. -/
theorem run_nested (limit : Nat) (body : Walk) (p : Pass) :
    (nested limit body).run p =
      if limit < p.depth + 1 then .error ⟨.tooDeep limit, p.notes⟩
      else (body.run { p with depth := p.depth + 1 }).map
        fun a => ((), { a.2 with depth := a.2.depth - 1 }) := by
  by_cases hdeep : limit < p.depth + 1
  · simp only [nested, StateT.run_bind, StateT.run_modify, StateT.run_get, pure_bind, hdeep,
      if_true, run_stop]
    rfl
  · simp only [nested, StateT.run_bind, StateT.run_modify, StateT.run_get, pure_bind, hdeep,
      if_false]
    cases body.run { p with depth := p.depth + 1 } <;> rfl

end Walk

end FormulaTex
