import FormulaTex.Console
import Mathlib.Data.List.Basic
import Mathlib.Tactic.SplitIfs

/-!
# The states of a console

A command has the state of its context, or else that of the nearest context around it that has one.
A call for a state makes one where there is none. Whatever calls are made, and in whatever contexts,
a context keeps the state that it once gave, a call changes no state but the one it answers with,
and outside of all contexts the state of the call before counts.
-/

namespace FormulaTex
namespace Console

/-- The state that a context has, of its own or from the contexts around it. -/
inductive Has (c : Console) : Nat → Nat → Prop
  | own {context state : Nat} {parent : Option Nat} :
      c.contexts[context]? = some ⟨parent, some state⟩ → Has c context state
  | outer {context parent state : Nat} :
      c.contexts[context]? = some ⟨some parent, none⟩ → Has c parent state → Has c context state

/-- Every context is made after the one around it. -/
def IsForest (c : Console) : Prop :=
  ∀ (i parent : Nat) (state : Option Nat),
    c.contexts[i]? = some ⟨some parent, state⟩ → parent < i

/-- The context that a call is about. -/
def about (context : Option Nat) (c : Console) : Option Nat :=
  context.or c.running.head?

section

variable {c c' : Console} {i j s t : Nat} {context : Option Nat}

theorem Has.unique (hs : c.Has i s) (ht : c.Has i t) : s = t := by
  induction hs with
  | own h =>
    cases ht with
    | own h' =>
      rw [h] at h'
      cases h'
      rfl
    | outer h' _ =>
      rw [h] at h'
      cases h'
  | outer h _ ih =>
    cases ht with
    | own h' =>
      rw [h] at h'
      cases h'
    | outer h' hparent =>
      rw [h] at h'
      cases h'
      exact ih hparent

theorem Has.lt_length (h : c.Has i s) : i < c.contexts.length := by
  cases h with
  | own h => exact (List.getElem?_eq_some_iff.mp h).1
  | outer h _ => exact (List.getElem?_eq_some_iff.mp h).1

theorem Has.congr (h : c.Has i s) (hcontexts : c'.contexts = c.contexts) : c'.Has i s := by
  induction h with
  | own h => exact .own (by rw [hcontexts, h])
  | outer h _ ih => exact .outer (by rw [hcontexts, h]) ih

theorem has_of_nearest {steps : Nat} (h : c.nearest steps i = some s) : c.Has i s := by
  induction steps generalizing i with
  | zero => cases h
  | succ steps ih =>
    unfold nearest at h
    split at h
    · cases h
    · next hown =>
      cases h
      exact .own hown
    · next houter => exact .outer houter (ih h)
    · cases h

/-- From a context outwards there are no more steps than contexts made before. -/
theorem nearest_of_has (hforest : c.IsForest) {steps : Nat} (hsteps : i < steps) (h : c.Has i s) :
    c.nearest steps i = some s := by
  induction h generalizing steps with
  | own h =>
    obtain ⟨steps, rfl⟩ := Nat.exists_eq_add_of_lt hsteps
    simp only [nearest, h]
  | outer h _ ih =>
    have hparent := hforest _ _ _ h
    obtain ⟨steps, rfl⟩ : ∃ k, steps = k + 1 := ⟨steps - 1, by omega⟩
    simp only [nearest, h]
    exact ih (by omega)

theorem nearest_eq_some (hforest : c.IsForest) :
    c.nearest c.contexts.length i = some s ↔ c.Has i s :=
  ⟨has_of_nearest, fun h => nearest_of_has hforest h.lt_length h⟩

def IsKept (c c' : Console) (i s : Nat) : Prop :=
  c'.contexts = c.contexts.modify i fun context => { context with state := some s }

theorem IsKept.getElem?_of_ne (h : c.IsKept c' i s) (hne : i ≠ j) :
    c'.contexts[j]? = c.contexts[j]? := by
  rw [h, List.getElem?_modify_ne _ _ hne]

theorem IsKept.getElem?_self (h : c.IsKept c' i s) :
    c'.contexts[i]? = c.contexts[i]?.map fun context => ⟨context.parent, some s⟩ := by
  rw [h, List.getElem?_modify_eq]
  rfl

/-- A context that has a state keeps it when one without any gets a new one. -/
theorem Has.keep (h : c.Has j t) (hkept : c.IsKept c' i s) (hnone : ∀ t, ¬ c.Has i t) :
    c'.Has j t := by
  induction h with
  | @own context _ _ h =>
    have hne : i ≠ context := by
      rintro rfl
      exact hnone _ (.own h)
    exact .own ((hkept.getElem?_of_ne hne).trans h)
  | @outer context _ _ h hparent ih =>
    have hne : i ≠ context := by
      rintro rfl
      exact hnone _ (.outer h hparent)
    exact .outer ((hkept.getElem?_of_ne hne).trans h) ih

/-- Every other state that a context has of its own was its own before. -/
theorem IsKept.own_of_ne {parent : Option Nat} (hkept : c.IsKept c' i s) (hne : t ≠ s)
    (h : c'.contexts[j]? = some ⟨parent, some t⟩) : c.contexts[j]? = some ⟨parent, some t⟩ := by
  by_cases hsame : i = j
  · subst hsame
    rw [hkept.getElem?_self] at h
    obtain ⟨_, -, hcontext⟩ := Option.map_eq_some_iff.mp h
    exact absurd (Option.some.inj (Context.mk.inj hcontext).2).symm hne
  · exact (hkept.getElem?_of_ne hsame).symm.trans h

theorem Has.of_keep (h : c'.Has j t) (hkept : c.IsKept c' i s) (hne : t ≠ s) : c.Has j t := by
  induction h with
  | own h => exact .own (hkept.own_of_ne hne h)
  | @outer context _ _ h _ ih =>
    by_cases hsame : i = context
    · subst hsame
      rw [hkept.getElem?_self] at h
      obtain ⟨_, -, hcontext⟩ := Option.map_eq_some_iff.mp h
      cases (Context.mk.inj hcontext).2
    · exact .outer ((hkept.getElem?_of_ne hsame).symm.trans h) (ih hne)

theorem IsKept.has (hkept : c.IsKept c' i s) (hi : i < c.contexts.length) : c'.Has i s := by
  have h := hkept.getElem?_self
  rw [List.getElem?_eq_getElem hi] at h
  exact .own h

/-- What a call for a state does. It gives the state that is there, or a new one, which is kept with
the context that the call is about. -/
inductive Gets (c : Console) (context : Option Nat) : Nat → Console → Prop
  | found {s : Nat} : (∀ i, c.about context = some i → c.Has i s) →
      (c.about context = none → c.latest = some s) → Gets c context s { c with latest := some s }
  | made {i : Nat} {c' : Console} : c.about context = some i → (∀ s, ¬ c.Has i s) →
      c.IsKept c' i c.states.length → c'.states = c.states ++ [({} : State)] →
      c'.running = c.running → c'.latest = some c.states.length →
        Gets c context c.states.length c'
  | first : c.about context = none → c.latest = none →
      Gets c context c.states.length
        { c with states := c.states ++ [{}], latest := some c.states.length }

theorem gets_get (hforest : c.IsForest) (context : Option Nat) :
    c.Gets context (c.get context).1 (c.get context).2 := by
  unfold get
  split
  · next i habout =>
    split
    · next s hnearest =>
      refine .found ?_ ?_
      · intro j hj
        rw [about, habout] at hj
        cases hj
        exact has_of_nearest hnearest
      · intro hnone
        rw [about, habout] at hnone
        cases hnone
    · next hnearest =>
      refine .made habout ?_ rfl rfl rfl rfl
      intro s hs
      rw [(nearest_eq_some hforest).mpr hs] at hnearest
      cases hnearest
  · next habout =>
    split
    · next s hlatest =>
      have hfound : c.Gets context s { c with latest := some s } := by
        refine .found ?_ fun _ => hlatest
        intro j hj
        rw [about, habout] at hj
        cases hj
      rwa [← hlatest] at hfound
    · next hlatest => exact .first habout hlatest

/-- A new state is like the ones that are not there yet. -/
theorem stateAt_append (h : c'.states = c.states ++ [({} : State)]) (t : Nat) :
    c'.stateAt t = c.stateAt t := by
  rw [stateAt, stateAt, h, List.getD_eq_getElem?_getD, List.getD_eq_getElem?_getD]
  rcases Nat.lt_trichotomy t c.states.length with hlt | rfl | hgt
  · rw [List.getElem?_append_left hlt]
  · rw [List.getElem?_concat_length, List.getElem?_eq_none (Nat.le_refl _)]
    rfl
  · rw [List.getElem?_eq_none (Nat.le_of_lt hgt), List.getElem?_eq_none]
    rw [List.length_append, List.length_singleton]
    omega

theorem Gets.stateAt (h : c.Gets context s c') (t : Nat) : c'.stateAt t = c.stateAt t := by
  cases h with
  | found => rfl
  | made _ _ _ hstates => exact stateAt_append hstates t
  | first => exact stateAt_append rfl t

/-- A call for a state gives no other state to any context. -/
theorem Gets.has_iff (h : c.Gets context s c') (hne : t ≠ s) : c'.Has j t ↔ c.Has j t := by
  cases h with
  | found => exact ⟨fun h => h.congr rfl, fun h => h.congr rfl⟩
  | made _ hnone hkept =>
    exact ⟨fun h => h.of_keep hkept hne, fun h => h.keep hkept hnone⟩
  | first => exact ⟨fun h => h.congr rfl, fun h => h.congr rfl⟩

theorem Gets.of_has (h : c.Gets context s c') (habout : c.about context = some i)
    (ht : c.Has i t) : s = t ∧ c'.states = c.states := by
  cases h with
  | found hhas => exact ⟨(hhas i habout).unique ht, rfl⟩
  | made hother hnone =>
    cases habout.symm.trans hother
    exact absurd ht (hnone t)
  | first hnone => cases habout.symm.trans hnone

theorem Gets.of_not_has (h : c.Gets context s c') (habout : c.about context = some i)
    (hnone : ∀ t, ¬ c.Has i t) :
    s = c.states.length ∧ c'.states = c.states ++ [({} : State)] ∧ c.IsKept c' i s := by
  cases h with
  | found hhas => exact absurd (hhas i habout) (hnone s)
  | made hother _ hkept hstates =>
    cases habout.symm.trans hother
    exact ⟨rfl, hstates, hkept⟩
  | first houtside => cases habout.symm.trans houtside

theorem Gets.of_latest (h : c.Gets context s c') (habout : c.about context = none)
    (hlatest : c.latest = some t) : s = t ∧ c'.states = c.states := by
  cases h with
  | found _ hsame => exact ⟨Option.some.inj ((hsame habout).symm.trans hlatest), rfl⟩
  | made hother => cases habout.symm.trans hother
  | first _ hnone => cases hlatest.symm.trans hnone

theorem Gets.of_first (h : c.Gets context s c') (habout : c.about context = none)
    (hlatest : c.latest = none) :
    s = c.states.length ∧ c'.states = c.states ++ [({} : State)] := by
  cases h with
  | found _ hsame => cases hlatest.symm.trans (hsame habout)
  | made hother => cases habout.symm.trans hother
  | first => exact ⟨rfl, rfl⟩

theorem IsKept.length_eq (hkept : c.IsKept c' i s) : c'.contexts.length = c.contexts.length := by
  rw [hkept, List.length_modify]

theorem IsKept.isForest (hkept : c.IsKept c' i s) (h : c.IsForest) : c'.IsForest := by
  intro j parent state hj
  by_cases hsame : i = j
  · subst hsame
    rw [hkept.getElem?_self] at hj
    obtain ⟨context, hcontext, hparent⟩ := Option.map_eq_some_iff.mp hj
    refine h i parent context.state (hcontext.trans ?_)
    rw [← (Context.mk.inj hparent).1]
  · exact h j parent state ((hkept.getElem?_of_ne hsame).symm.trans hj)

/-- A call with the context that it was about and the state that it gave. -/
structure Answer where
  context : Option Nat
  state : Nat

/-- The consoles of a process, with the answers to the calls so far, the latest first. Contexts are
made, entered and left at any time, and calls are for contexts that have been made. -/
inductive Reached : List Answer → Console → Prop
  | start : Reached [] Console.start
  | made {answers : List Answer} {c : Console} {parent : Option Nat} : Reached answers c →
      (∀ i ∈ parent, i < c.contexts.length) → Reached answers (c.addContext parent).2
  | entered {answers : List Answer} {c : Console} {context : Nat} : Reached answers c →
      context < c.contexts.length → Reached answers (c.enter context)
  | left {answers : List Answer} {c : Console} : Reached answers c → Reached answers c.leave
  | get {answers : List Answer} {c : Console} (context : Option Nat) : Reached answers c →
      (∀ i ∈ context, i < c.contexts.length) →
        Reached (⟨c.about context, (c.get context).1⟩ :: answers) (c.get context).2
  | set {answers : List Answer} {c : Console} (context : Option Nat) (verbosity : Option Int)
      (showsTraces : Option Bool) : Reached answers c →
      (∀ i ∈ context, i < c.contexts.length) →
        Reached (⟨c.about context, (c.set context verbosity showsTraces).1⟩ :: answers)
          (c.set context verbosity showsTraces).2

/-- What holds of a console after the calls with these answers. -/
structure IsSound (answers : List Answer) (c : Console) : Prop where
  forest : c.IsForest
  running_lt : ∀ i ∈ c.running, i < c.contexts.length
  own_lt : ∀ (i s : Nat) (parent : Option Nat),
    c.contexts[i]? = some ⟨parent, some s⟩ → s < c.states.length
  latest_eq : c.latest = answers.head?.map Answer.state
  answered_lt : ∀ answer ∈ answers, answer.state < c.states.length
  answered_has : ∀ answer ∈ answers, ∀ i, answer.context = some i → c.Has i answer.state

variable {answers : List Answer}

theorem isSound_start : IsSound [] Console.start where
  forest := nofun
  running_lt := nofun
  own_lt := nofun
  latest_eq := rfl
  answered_lt := nofun
  answered_has := nofun

theorem IsSound.about_lt (h : IsSound answers c) (hcontext : ∀ i ∈ context, i < c.contexts.length)
    (habout : c.about context = some i) : i < c.contexts.length := by
  rcases Option.or_eq_some_iff.mp habout with hgiven | ⟨-, hrunning⟩
  · exact hcontext i hgiven
  · exact h.running_lt i (List.mem_of_head? hrunning)

theorem IsSound.has_lt (h : IsSound answers c) (hs : c.Has i s) : s < c.states.length := by
  induction hs with
  | own hown => exact h.own_lt _ _ _ hown
  | outer _ _ ih => exact ih

theorem IsSound.latest_lt (h : IsSound answers c) (hs : c.latest = some s) :
    s < c.states.length := by
  rw [h.latest_eq] at hs
  obtain ⟨answer, hanswer, rfl⟩ := Option.map_eq_some_iff.mp hs
  exact h.answered_lt answer (List.mem_of_head? hanswer)

/-- A call keeps a console sound. The cases are those of what a call does. -/
theorem IsSound.gets (h : IsSound answers c) (hcontext : ∀ i ∈ context, i < c.contexts.length)
    (hgets : c.Gets context s c') : IsSound (⟨c.about context, s⟩ :: answers) c' := by
  cases hgets with
  | found hhas hlatest =>
    have hlt : s < c.states.length := by
      cases habout : c.about context with
      | some i => exact h.has_lt (hhas i habout)
      | none => exact h.latest_lt (hlatest habout)
    exact {
      forest := h.forest
      running_lt := h.running_lt
      own_lt := h.own_lt
      latest_eq := rfl
      answered_lt := List.forall_mem_cons.mpr ⟨hlt, h.answered_lt⟩
      answered_has := List.forall_mem_cons.mpr
        ⟨fun i hi => (hhas i hi).congr rfl,
          fun answer hanswer i hi => (h.answered_has answer hanswer i hi).congr rfl⟩ }
  | @made i _ habout hnone hkept hstates hrunning hlatest =>
    have hlength : c'.states.length = c.states.length + 1 := by
      rw [hstates, List.length_append, List.length_singleton]
    have hi := hkept.has (h.about_lt hcontext habout)
    refine ⟨hkept.isForest h.forest, ?_, ?_, hlatest, ?_, ?_⟩
    · rw [hrunning, hkept.length_eq]
      exact h.running_lt
    · intro j t parent hj
      by_cases ht : t = c.states.length
      · omega
      · have hlt := h.own_lt _ _ _ (hkept.own_of_ne ht hj)
        omega
    · rw [hlength, List.forall_mem_cons]
      exact ⟨Nat.lt_succ_self _, fun answer hanswer =>
        Nat.lt_succ_of_lt (h.answered_lt answer hanswer)⟩
    · refine List.forall_mem_cons.mpr ⟨?_, ?_⟩
      · intro j hj
        obtain rfl : i = j := Option.some.inj (habout.symm.trans hj)
        exact hi
      · intro answer hanswer j hj
        exact (h.answered_has answer hanswer j hj).keep hkept hnone
  | first habout _ =>
    have hlength : (c.states ++ [({} : State)]).length = c.states.length + 1 := by
      rw [List.length_append, List.length_singleton]
    refine ⟨h.forest, h.running_lt, ?_, rfl, ?_, ?_⟩
    · intro j t parent hj
      have hlt := h.own_lt j t parent hj
      simp only [hlength]
      omega
    · simp only [hlength, List.forall_mem_cons]
      exact ⟨Nat.lt_succ_self _, fun answer hanswer =>
        Nat.lt_succ_of_lt (h.answered_lt answer hanswer)⟩
    · refine List.forall_mem_cons.mpr ⟨?_, ?_⟩
      · intro j hj
        rw [habout] at hj
        cases hj
      · intro answer hanswer j hj
        exact (h.answered_has answer hanswer j hj).congr rfl

theorem of_getElem?_addContext {parent : Option Nat} {made : Context}
    (h : (c.addContext parent).2.contexts[j]? = some made) :
    c.contexts[j]? = some made ∨ (j = c.contexts.length ∧ made = ⟨parent, none⟩) := by
  change (c.contexts ++ [⟨parent, none⟩])[j]? = some made at h
  rcases Nat.lt_trichotomy j c.contexts.length with hlt | rfl | hgt
  · rw [List.getElem?_append_left hlt] at h
    exact .inl h
  · rw [List.getElem?_concat_length] at h
    exact .inr ⟨rfl, (Option.some.inj h).symm⟩
  · rw [List.getElem?_eq_none] at h
    · cases h
    · rw [List.length_append, List.length_singleton]
      omega

theorem Has.addContext (h : c.Has i s) (parent : Option Nat) : (c.addContext parent).2.Has i s := by
  have hold : ∀ {j : Nat} {made : Context}, c.contexts[j]? = some made →
      (c.addContext parent).2.contexts[j]? = some made := by
    intro j made hj
    exact (List.getElem?_append_left (List.getElem?_eq_some_iff.mp hj).1).trans hj
  induction h with
  | own h => exact .own (hold h)
  | outer h _ ih => exact .outer (hold h) ih

theorem IsSound.addContext {parent : Option Nat} (h : IsSound answers c)
    (hparent : ∀ i ∈ parent, i < c.contexts.length) : IsSound answers (c.addContext parent).2 where
  forest := by
    intro j outer state hj
    rcases of_getElem?_addContext hj with hj | ⟨rfl, hmade⟩
    · exact h.forest j outer state hj
    · exact hparent outer (Context.mk.inj hmade).1.symm
  running_lt := by
    intro i hi
    have hlt := h.running_lt i hi
    change i < (c.contexts ++ [Context.mk parent none]).length
    rw [List.length_append]
    omega
  own_lt := by
    intro j s outer hj
    rcases of_getElem?_addContext hj with hj | ⟨-, hmade⟩
    · exact h.own_lt j s outer hj
    · cases (Context.mk.inj hmade).2
  latest_eq := h.latest_eq
  answered_lt := h.answered_lt
  answered_has := fun answer hanswer i hi => (h.answered_has answer hanswer i hi).addContext parent

/-- A console stays sound when only what its states are changes, or what commands are running. -/
theorem IsSound.congr (h : IsSound answers c) (hcontexts : c'.contexts = c.contexts)
    (hlength : c'.states.length = c.states.length) (hlatest : c'.latest = c.latest)
    (hrunning : ∀ i ∈ c'.running, i < c.contexts.length) : IsSound answers c' where
  forest := by
    intro j parent state hj
    exact h.forest j parent state (hcontexts ▸ hj)
  running_lt := by rwa [hcontexts]
  own_lt := by
    intro j s parent hj
    rw [hlength]
    exact h.own_lt j s parent (hcontexts ▸ hj)
  latest_eq := hlatest.trans h.latest_eq
  answered_lt := by
    rw [hlength]
    exact h.answered_lt
  answered_has := fun answer hanswer i hi => (h.answered_has answer hanswer i hi).congr hcontexts

theorem isSound_of_reached (h : Reached answers c) : IsSound answers c := by
  induction h with
  | start => exact isSound_start
  | made _ hparent ih => exact ih.addContext hparent
  | entered _ hcontext ih =>
    exact ih.congr rfl rfl rfl (List.forall_mem_cons.mpr ⟨hcontext, ih.running_lt⟩)
  | left _ ih =>
    exact ih.congr rfl rfl rfl fun i hi => ih.running_lt i (List.mem_of_mem_drop hi)
  | get _ _ hcontext ih => exact ih.gets hcontext (gets_get ih.forest _)
  | set _ _ _ _ hcontext ih =>
    have hget := ih.gets hcontext (gets_get ih.forest _)
    exact hget.congr rfl (List.length_modify _ _ _) rfl hget.running_lt

section

variable {verbosity : Option Int} {showsTraces : Option Bool}

theorem stateAt_set_self (h : (c.get context).1 < (c.get context).2.states.length) :
    (c.set context verbosity showsTraces).2.stateAt (c.get context).1 =
      ((c.get context).2.stateAt (c.get context).1).set verbosity showsTraces := by
  simp only [stateAt, set, List.getD_eq_getElem?_getD, List.getElem?_modify_eq,
    List.getElem?_eq_getElem h]
  rfl

theorem stateAt_set_of_ne (h : t ≠ (c.get context).1) :
    (c.set context verbosity showsTraces).2.stateAt t = (c.get context).2.stateAt t := by
  simp only [stateAt, set, List.getD_eq_getElem?_getD, List.getElem?_modify_ne _ _ h.symm]

theorem contexts_set :
    (c.set context verbosity showsTraces).2.contexts = (c.get context).2.contexts := rfl

end

theorem State.verbosity_set (verbosity : Option Int) (showsTraces : Option Bool) (state : State) :
    ((state.set verbosity showsTraces).verbosity : Int) =
      (verbosity.map (max 0)).getD state.verbosity := by
  cases verbosity with
  | none => rfl
  | some given => exact (Int.ofNat_toNat given).trans (Int.max_comm given 0)

/-- What a call does, to ask for a state or to change it, after the calls with these answers. -/
structure Serves (answers : List Answer) (c : Console) (context : Option Nat) : Prop where
  /-- A context gives the state that it has, and nothing is made. -/
  found : ∀ i s, c.about context = some i → c.Has i s →
    (c.get context).1 = s ∧ (c.get context).2.states = c.states
  /-- A context without a state gets a new one of its own. -/
  made : ∀ i, c.about context = some i → (∀ s, ¬ c.Has i s) →
    (c.get context).1 = c.states.length ∧ (c.get context).2.states = c.states ++ [({} : State)] ∧
      c.IsKept (c.get context).2 i (c.get context).1
  /-- Outside of all contexts the state of the last call is given, and nothing is made. -/
  again : c.about context = none → ∀ answer ∈ answers.head?,
    (c.get context).1 = answer.state ∧ (c.get context).2.states = c.states
  /-- The first call of all outside of all contexts makes a state. -/
  first : c.about context = none → answers = [] →
    (c.get context).1 = c.states.length ∧ (c.get context).2.states = c.states ++ [({} : State)]
  /-- Asking changes no state. -/
  asked : ∀ t, (c.get context).2.stateAt t = c.stateAt t
  /-- A change is one of the state that is given. -/
  same : ∀ verbosity showsTraces, (c.set context verbosity showsTraces).1 = (c.get context).1
  /-- A verbosity that is given becomes the verbosity, unless it is negative. -/
  verbosity : ∀ verbosity showsTraces,
    (((c.set context verbosity showsTraces).2.stateAt (c.get context).1).verbosity : Int) =
      (verbosity.map (max 0)).getD (c.stateAt (c.get context).1).verbosity
  showsTraces : ∀ verbosity showsTraces,
    ((c.set context verbosity showsTraces).2.stateAt (c.get context).1).showsTraces =
      showsTraces.getD (c.stateAt (c.get context).1).showsTraces
  /-- No other state changes, nor do the contexts that have another one. -/
  others : ∀ verbosity showsTraces t, t ≠ (c.get context).1 →
    (c.set context verbosity showsTraces).2.stateAt t = c.stateAt t ∧
      ∀ i, (c.set context verbosity showsTraces).2.Has i t ↔ c.Has i t

theorem IsSound.serves (h : IsSound answers c) (hcontext : ∀ i ∈ context, i < c.contexts.length) :
    c.Serves answers context := by
  have hgets := gets_get h.forest context
  have hlt : (c.get context).1 < (c.get context).2.states.length :=
    (h.gets hcontext hgets).answered_lt _ List.mem_cons_self
  refine {
    found := fun i s => hgets.of_has
    made := fun i => hgets.of_not_has
    again := ?again
    first := ?first
    asked := hgets.stateAt
    same := fun _ _ => rfl
    verbosity := ?verbosity
    showsTraces := ?showsTraces
    others := ?others }
  case again =>
    intro habout answer hanswer
    apply hgets.of_latest habout
    rw [h.latest_eq, Option.mem_def.mp hanswer]
    rfl
  case first =>
    intro habout hnone
    apply hgets.of_first habout
    rw [h.latest_eq, hnone]
    rfl
  case verbosity =>
    intro verbosity showsTraces
    rw [stateAt_set_self hlt, State.verbosity_set, hgets.stateAt]
  case showsTraces =>
    intro verbosity showsTraces
    rw [stateAt_set_self hlt, State.set, hgets.stateAt]
  case others =>
    intro verbosity showsTraces t hne
    refine ⟨(stateAt_set_of_ne hne).trans (hgets.stateAt t), fun i => ?_⟩
    rw [← hgets.has_iff hne]
    exact ⟨fun hi => hi.congr contexts_set.symm, fun hi => hi.congr contexts_set⟩

theorem IsSound.showsTraces_eq (h : IsSound answers c) :
    c.showsTraces =
      (answers.head?.map fun answer => (c.stateAt answer.state).showsTraces).getD false := by
  rw [Console.showsTraces, h.latest_eq, Option.map_map]
  rfl

/-- After any calls in any contexts, a context has one state: all calls about it have given that
one, and the next one will. What the next call does is laid down, and it leaves the other states and
their contexts as they are. No verbosity is negative. Whether traces are shown is a matter of the
state that the last call gave, and without a call they are not. -/
theorem reached_calls {answers : List Answer} {c : Console} (h : Reached answers c) :
    (∀ a ∈ answers, ∀ b ∈ answers, ∀ i, a.context = some i → b.context = some i →
      a.state = b.state) ∧
    (∀ a ∈ answers, ∀ i, a.context = some i → c.Has i a.state) ∧
    (∀ context, (∀ i ∈ context, i < c.contexts.length) → c.Serves answers context) ∧
    (∀ state ∈ c.states, (0 : Int) ≤ state.verbosity) ∧
    c.showsTraces =
      (answers.head?.map fun answer => (c.stateAt answer.state).showsTraces).getD false := by
  have hsound := isSound_of_reached h
  refine ⟨?_, hsound.answered_has, fun context => hsound.serves,
    fun state _ => Int.natCast_nonneg _, hsound.showsTraces_eq⟩
  intro a ha b hb i hai hbi
  exact (hsound.answered_has a ha i hai).unique (hsound.answered_has b hb i hbi)

/-- A context that was asked before the one around it keeps its own state. -/
theorem reached_calls_nested :
    let nested := ((Console.start.addContext none).2.addContext (some 0)).2
    let inner := (nested.set (some 1) (some (-5)) (some true)).2
    let outer := (inner.set (some 0) (some 2) none).2
    Reached [⟨some 0, 1⟩, ⟨some 1, 0⟩] outer ∧ outer.showsTraces = false ∧
      (outer.get (some 1)).1 = 0 ∧ outer.stateAt 0 = ⟨0, true⟩ ∧ outer.stateAt 1 = ⟨2, false⟩ := by
  intro nested inner outer
  have hnested : Reached [] nested := .made (.made .start nofun) (by decide)
  have hinner : Reached [⟨some 1, 0⟩] inner :=
    .set (some 1) (some (-5)) (some true) hnested (by decide)
  have houter : Reached [⟨some 0, 1⟩, ⟨some 1, 0⟩] outer :=
    .set (some 0) (some 2) none hinner (by decide)
  obtain ⟨-, hhas, hserves, -, htraces⟩ := reached_calls houter
  have hown : outer.Has 1 0 := hhas ⟨some 1, 0⟩ (by simp) 1 rfl
  exact ⟨houter, htraces.trans rfl, ((hserves (some 1) (by decide)).found 1 0 rfl hown).1, rfl, rfl⟩

end

end Console
end FormulaTex
