import FormulaTex.Json
import FormulaTex.Proofs.Places
import Mathlib.Data.List.Infix
import Mathlib.Tactic.SplitIfs

/-!
# Where a JSON document breaks

A document that breaks the grammar does so at one of its characters or at its end. Every token is
the start of what the scanner has before it, so the tokens stand one behind another in the text, and
the reader fails at the token that it has before it or at the place where that token is broken.
-/

namespace FormulaTex
namespace Json

open Layout (bind_eq_error mapError_eq_error)

namespace Token

theorem append_prefix_of_drop {a b input : List Char} (ha : a <+: input)
    (hb : b <+: input.drop a.length) : a ++ b <+: input := by
  obtain ⟨rest, rfl⟩ := ha
  rw [List.drop_left] at hb
  exact (List.prefix_append_right_inj a).mpr hb

theorem isPrefix_digits (input : List Char) : digits input <+: input :=
  List.takeWhile_prefix _

theorem isPrefix_wholePart (input : List Char) : wholePart input <+: input := by
  unfold wholePart
  split
  · exact List.prefix_append ['0'] _
  · exact isPrefix_digits _

theorem isPrefix_fractionPart (input : List Char) : fractionPart input <+: input := by
  unfold fractionPart
  split
  · next rest =>
    split_ifs
    · exact List.nil_prefix
    · exact List.cons_prefix_cons.mpr ⟨rfl, isPrefix_digits rest⟩
  · exact List.nil_prefix

theorem isPrefix_exponentPart (input : List Char) : exponentPart input <+: input := by
  unfold exponentPart
  split
  · exact List.nil_prefix
  · next e rest =>
    dsimp only
    split_ifs
    · exact List.nil_prefix
    · refine List.cons_prefix_cons.mpr ⟨rfl, append_prefix_of_drop ?_ (isPrefix_digits _)⟩
      split
      · exact List.prefix_append ['-'] _
      · exact List.prefix_append ['+'] _
      · exact List.nil_prefix
    · exact List.nil_prefix

variable {input : List Char} {token : Token} {taken : Nat}

theorem number?_le (h : number? input = some (token, taken)) : taken ≤ input.length := by
  unfold number? at h
  dsimp only at h
  split_ifs at h
  obtain ⟨-, rfl⟩ := Prod.mk.inj (Option.some.inj h)
  apply List.IsPrefix.length_le
  -- the sign, the whole part, the fraction and the exponent, one behind the other
  refine append_prefix_of_drop (append_prefix_of_drop (append_prefix_of_drop ?_
    (isPrefix_wholePart _)) ?_) ?_
  · split
    · exact List.prefix_append ['-'] _
    · exact List.nil_prefix
  · rw [List.length_append, ← List.drop_drop]
    exact isPrefix_fractionPart _
  · rw [List.length_append, List.length_append, ← List.drop_drop, ← List.drop_drop]
    exact isPrefix_exponentPart _

theorem name?_le (h : name? input = some (token, taken)) : taken ≤ input.length := by
  unfold name? at h
  obtain ⟨⟨name, s⟩, hfind, hname⟩ := Option.map_eq_some_iff.mp h
  obtain ⟨-, rfl⟩ := Prod.mk.inj hname
  have hprefix : name.toList <+: input := by
    simpa using List.find?_some hfind
  rw [← String.length_toList]
  exact hprefix.length_le

def BreaksWithin (bound : Nat) (token : Token) : Prop :=
  ∀ problem place, token = .broken problem place → place ≤ bound

structure EndsBy (bound : Nat) (result : Token × Nat × List Char) : Prop where
  behind_le : result.2.1 + result.2.2.length ≤ bound
  breaks : result.1.BreaksWithin bound

section

variable {bound other offset place : Nat} {result : Token × Nat × List Char} {rest : List Char}

theorem EndsBy.mono (h : EndsBy bound result) (hle : bound ≤ other) : EndsBy other result where
  behind_le := h.behind_le.trans hle
  breaks := fun problem place hbroken => (h.breaks problem place hbroken).trans hle

theorem endsBy_broken (problem : Problem) (hplace : place ≤ bound) (hoffset : offset ≤ bound) :
    EndsBy bound (.broken problem place, offset, []) where
  behind_le := hoffset
  breaks := by
    rintro _ _ ⟨⟩
    exact hplace

theorem endsBy_whole (hwhole : ∀ problem place, token ≠ .broken problem place)
    (hbehind : offset + rest.length ≤ bound) : EndsBy bound (token, offset, rest) where
  behind_le := hbehind
  breaks := fun problem place hbroken => absurd hbroken (hwhole problem place)

end

theorem codeEscape?_le {distance : Nat} (h : codeEscape? input = .error distance) :
    distance ≤ input.length := by
  unfold codeEscape? at h
  split at h
  · cases h
    exact Nat.zero_le _
  · cases h
    exact Nat.zero_le _
  · next high rest hcode hdrop =>
    have hlength := congrArg List.length hdrop
    simp only [List.length_drop, List.length_cons] at hlength
    split_ifs at h
    · split at h
      · cases h
        omega
      · split_ifs at h
  · cases h

/-- A text is broken at its opening quote or behind it, and before its end. -/
theorem readText_endsBy (start offset skip : Nat) (done input : List Char) (h : start ≤ offset) :
    EndsBy (offset + input.length) (readText start offset skip done input) := by
  fun_induction readText start offset skip done input with
  | case1 offset =>
    exact endsBy_broken .openText h le_rfl
  | case2 offset skip done c rest ih =>
    exact (ih (by omega)).mono (by simp only [List.length_cons]; omega)
  | case3 offset done rest =>
    exact endsBy_whole nofun (by simp only [List.length_cons]; omega)
  | case4 offset =>
    exact endsBy_broken .openText (by omega) (by omega)
  | case5 offset done digits distance hescape =>
    have hdistance := codeEscape?_le hescape
    apply endsBy_broken .codeEscape <;> simp only [List.length_cons] <;> omega
  | case6 offset done digits c taken hescape hquote ih =>
    exact (ih (by omega)).mono (by simp only [List.length_cons]; omega)
  | case7 offset =>
    exact endsBy_broken .escape (by omega) (by omega)
  | case8 offset done letter tail hletter c hescaped hquote ih =>
    exact (ih (by omega)).mono (by simp only [List.length_cons]; omega)
  | case9 offset =>
    exact endsBy_broken .controlCharacter (by omega) (by omega)
  | case10 offset done c rest hquote hmark hcontrol ih =>
    exact (ih (by omega)).mono (by simp only [List.length_cons]; omega)

theorem ne_broken_of_number? (h : number? input = some (token, taken)) (problem : Problem)
    (place : Nat) : token ≠ .broken problem place := by
  unfold number? at h
  dsimp only at h
  split_ifs at h
  obtain ⟨rfl, -⟩ := Prod.mk.inj (Option.some.inj h)
  unfold numeral
  split_ifs
  · nofun
  · split <;> nofun
  · split <;> nofun

theorem ne_broken_of_name? (h : name? input = some (token, taken)) (problem : Problem)
    (place : Nat) : token ≠ .broken problem place := by
  obtain ⟨entry, -, hname⟩ := Option.map_eq_some_iff.mp h
  obtain ⟨rfl, -⟩ := Prod.mk.inj hname
  nofun

theorem next_endsBy (offset : Nat) (c : Char) (rest : List Char) :
    EndsBy (offset + rest.length + 1) (next offset c rest) := by
  unfold next
  split_ifs
  · exact endsBy_whole nofun (by omega)
  · exact (readText_endsBy offset (offset + 1) 0 [] rest (by omega)).mono (by omega)
  · split
    · next token taken hread =>
      have hword : taken ≤ (c :: rest).length ∧ ∀ problem place, token ≠ .broken problem place := by
        rcases Option.or_eq_some_iff.mp hread with hname | ⟨-, hnumber⟩
        · exact ⟨name?_le hname, ne_broken_of_name? hname⟩
        · exact ⟨number?_le hnumber, ne_broken_of_number? hnumber⟩
      refine endsBy_whole hword.2 ?_
      have htaken := hword.1
      rw [List.length_drop]
      simp only [List.length_cons] at htaken ⊢
      omega
    · exact endsBy_whole nofun (by omega)

structure LiesWithin (bound : Nat) (entry : Token × Nat) : Prop where
  offset_le : entry.2 ≤ bound
  breaks : entry.1.BreaksWithin bound

theorem scanFrom_liesWithin (steps offset : Nat) (input : List Char) {bound : Nat}
    (h : offset + input.length ≤ bound) :
    ∀ entry ∈ scanFrom steps offset input, LiesWithin bound entry := by
  induction steps generalizing offset input with
  | zero => exact fun _ hmem => absurd hmem List.not_mem_nil
  | succ steps ih =>
    cases input with
    | nil => exact fun _ hmem => absurd hmem List.not_mem_nil
    | cons c rest =>
      simp only [List.length_cons] at h
      have hnext : EndsBy bound (next offset c rest) :=
        (next_endsBy offset c rest).mono (by omega)
      unfold scanFrom
      split_ifs with hspace
      · exact ih (offset + 1) rest (by omega)
      · refine List.forall_mem_cons.mpr ⟨⟨by omega, hnext.breaks⟩, ?_⟩
        exact ih _ _ hnext.behind_le

theorem scan_liesWithin (input : List Char) :
    ∀ entry ∈ scan input, LiesWithin input.length entry :=
  scanFrom_liesWithin input.length 0 input (by omega)

end Token

namespace State

variable {state : State} {frames : List Frame} {entries : List (Scalar × Value)} {token : Token}
variable {offset place : Nat} {problem : Problem}

theorem takeValue_fails (h : takeValue frames offset token = .error (.problem problem place)) :
    place = offset ∨ token = .broken problem place := by
  unfold takeValue opened at h
  split at h
  · split_ifs at h
    cases h
  · split_ifs at h
    cases h
  · cases h
  · cases h
  · cases h
    exact .inr rfl
  · cases h
  · cases h
    exact .inl rfl

theorem takeName_fails
    (h : takeName frames entries offset token = .error (.problem problem place)) :
    place = offset ∨ token = .broken problem place := by
  unfold takeName at h
  split at h
  · cases h
  · cases h
    exact .inr rfl
  · cases h
    exact .inl rfl

/-- A step fails at its token, or where its token is broken. -/
theorem step_fails (h : state.step token offset = .error (.problem problem place)) :
    place = offset ∨ token = .broken problem place := by
  unfold step at h
  split at h
  · exact takeValue_fails h
  · cases h
  · exact takeValue_fails h
  · cases h
  · cases h
  · cases h
    exact .inl rfl
  · cases h
  · exact takeName_fails h
  · exact takeName_fails h
  · cases h
  · cases h
    exact .inl rfl
  · cases h
  · cases h
  · cases h
    exact .inl rfl
  · cases h
    exact .inl rfl

theorem finish_fails {state : State} (h : state.finish offset = .error (.problem problem place)) :
    place = offset := by
  unfold finish at h
  split at h <;> cases h <;> rfl

theorem run_fails {tokens : List (Token × Nat)} {bound : Nat}
    (htokens : ∀ entry ∈ tokens, Token.LiesWithin bound entry)
    (h : state.run bound tokens = .error (.problem problem place)) : place ≤ bound := by
  induction tokens generalizing state with
  | nil => exact (finish_fails h).le
  | cons entry rest ih =>
    obtain ⟨token, offset⟩ := entry
    obtain ⟨htoken, hrest⟩ := List.forall_mem_cons.mp htokens
    rcases bind_eq_error.mp h with hstep | ⟨next, -, hrun⟩
    · rcases step_fails hstep with rfl | hbroken
      · exact htoken.offset_le
      · exact htoken.breaks problem place hbroken
    · exact ih hrest hrun

end State

/-- A text that is not whole breaks at no place. -/
theorem checkWhole_ne_malformed {tokens : List (Token × Nat)} {value : Value} {problem : Problem}
    {position : Position} : checkWhole tokens value ≠ .error (.malformed problem position) := by
  intro h
  unfold checkWhole at h
  split_ifs at h
  cases h

/-- A document breaks at one of its characters or at its end. -/
theorem exists_offset_of_read {text : List Char} {problem : Problem} {position : Position}
    (h : read text = .error (.malformed problem position)) :
    ∃ offset ≤ text.length, position = .ofOffset text offset := by
  unfold read at h
  split_ifs at h with hmark
  · cases h
    exact ⟨0, Nat.zero_le _, rfl⟩
  · rcases bind_eq_error.mp h with hread | ⟨value, -, hwhole⟩
    · obtain ⟨failure, hrun, hfault⟩ := mapError_eq_error.mp hread
      cases failure with
      | problem kind offset =>
        cases hfault
        exact ⟨offset, State.run_fails (Token.scan_liesWithin text) hrun, rfl⟩
      | longInteger digits => cases hfault
      | tooDeep => cases hfault
    · exact (checkWhole_ne_malformed hwhole).elim

end Json
end FormulaTex
