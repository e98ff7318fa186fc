import FormulaTex.Proofs.Legacy

/-!
# Braces once and for all

The passes over accents settle a text: neither of them finds anything in what they have written, so
that going over it again changes nothing, and the texts that stay as they are are just those in
which nothing is found. Otherwise what is written is the text. It differs from it only by the braces
around arguments and by the blanks that stood in front of these. So the same characters are left of
both without braces and blanks, and both open and close the same groups.
-/

namespace FormulaTex
namespace Latex
namespace Accent

def IsArgument (arg : List Char) : Prop :=
  (∃ c, isLetter c ∧ arg = [c]) ∨ ∃ c, (c = 'i' ∨ c = 'j') ∧ arg = ['\\', c]

variable {c command : Char} {text out rest arg tail : List Char} {found : Found}

theorem exists_blanks_of_accent? (h : accent? text = some found) :
    ∃ blanks, text = '\\' :: found.command :: (blanks ++ (found.argument ++ found.rest)) ∧
      isCommand found.command ∧ (∀ b ∈ blanks, Text.isBlank b) ∧ IsArgument found.argument := by
  rcases Option.or_eq_some_iff.1 h with hletter | ⟨-, hdotless⟩
  · obtain ⟨after, rfl, hcommand, hargument⟩ := exists_of_found? hletter
    obtain ⟨blanks, c, rfl, hblanks, hc, harg⟩ := exists_of_letterArgument? hargument
    exact ⟨blanks, by rw [harg]; rfl, hcommand, hblanks, .inl ⟨c, hc, harg⟩⟩
  · split_ifs at hdotless
    obtain ⟨after, rfl, hcommand, hargument⟩ := exists_of_found? hdotless
    obtain ⟨blanks, c, rfl, hblanks, hc, harg⟩ := exists_of_dotlessArgument? hargument
    exact ⟨blanks, by rw [harg]; rfl, hcommand, hblanks, .inr ⟨c, hc, harg⟩⟩

theorem length_rest_of_accent? (h : accent? text = some found) :
    found.rest.length < text.length := by
  obtain ⟨blanks, rfl, -⟩ := exists_blanks_of_accent? h
  simp only [List.length_cons, List.length_append]
  omega

theorem accent?_eq_none (hletter : found? letterArgument? text = none)
    (hdotless : found? dotlessArgument? text = none) : accent? text = none := by
  rw [accent?, hletter, hdotless, ite_self]
  rfl

/-- A command with a brace behind it has its argument already. -/
theorem accent?_brace (command : Char) (tail : List Char) :
    accent? ('\\' :: command :: '\x7b' :: tail) = none := by
  have hletter : letterArgument? ('\x7b' :: tail) = none := letterArgument?_cons rfl tail
  have hdotless : dotlessArgument? ('\x7b' :: tail) = none :=
    dotlessArgument?_cons rfl (by decide) tail
  apply accent?_eq_none <;> simp [found?_cons, hletter, hdotless]

/-- A command that has its argument is not an argument itself. -/
theorem accent?_command (h : isCommand command) (c : Char) (tail : List Char) :
    accent? ('\\' :: c :: command :: '\x7b' :: tail) = none := by
  have hletter : letterArgument? (command :: '\x7b' :: tail) = none := by
    simp [letterArgument?_cons (isBlank_of_isCommand h)]
  apply accent?_eq_none <;> simp [found?_cons, hletter, dotlessArgument?_command h]

/-- The passes go through a text by what they find, and by single characters where they find
nothing. -/
@[elab_as_elim]
theorem accent_induction {motive : List Char → Prop} (nil : motive [])
    (accent : ∀ text found, accent? text = some found → motive found.rest → motive text)
    (cons : ∀ c rest, accent? (c :: rest) = none → motive rest → motive (c :: rest))
    (text : List Char) : motive text := by
  induction hlength : text.length using Nat.strong_induction_on generalizing text with
  | h n ih =>
    subst hlength
    cases haccent : accent? text with
    | some found => exact accent text found haccent (ih _ (length_rest_of_accent? haccent) _ rfl)
    | none =>
      cases text with
      | nil => exact nil
      | cons c rest => exact cons c rest haccent (ih _ (Nat.lt_succ_self _) rest rfl)

/-- Neither pass finds anything anywhere in the text. -/
def IsSettled (text : List Char) : Prop :=
  ∀ rest, rest <:+ text →
    found? letterArgument? rest = none ∧ found? dotlessArgument? rest = none

theorem isSettled_nil : IsSettled [] := by
  intro rest hrest
  rw [List.suffix_nil.1 hrest]
  exact ⟨rfl, rfl⟩

theorem isSettled_cons : IsSettled (c :: rest) ↔ accent? (c :: rest) = none ∧ IsSettled rest := by
  constructor
  · intro h
    obtain ⟨hletter, hdotless⟩ := h _ List.suffix_rfl
    exact ⟨accent?_eq_none hletter hdotless,
      fun after hafter => h after (hafter.trans (List.suffix_cons c rest))⟩
  · rintro ⟨haccent, hrest⟩ after hafter
    rcases List.suffix_cons_iff.1 hafter with rfl | hafter
    · obtain ⟨hletter, hdotless⟩ := Option.or_eq_none_iff.1 haccent
      rw [List.tail_cons, (hrest rest List.suffix_rfl).1] at hdotless
      exact ⟨hletter, hdotless⟩
    · exact hrest after hafter

theorem braceArguments_of_isSettled (h : IsSettled text) : braceArguments text = text := by
  induction text with
  | nil => rfl
  | cons c rest ih =>
    obtain ⟨haccent, hrest⟩ := isSettled_cons.1 h
    rw [braceArguments_cons haccent, ih hrest]

theorem isSettled_braced (harg : IsArgument found.argument) (htail : IsSettled tail) :
    IsSettled (found.braced tail) := by
  obtain ⟨command, arg, rest⟩ := found
  have hclose : IsSettled ('\x7d' :: tail) :=
    isSettled_cons.2 ⟨accent?_of_ne_slash (by decide) tail, htail⟩
  have hargument : IsSettled (arg ++ '\x7d' :: tail) := by
    rcases harg with ⟨c, hc, rfl⟩ | ⟨c, hc, rfl⟩
    · exact isSettled_cons.2 ⟨accent?_of_ne_slash (ne_slash_of_isLetter hc) _, hclose⟩
    · have hcommand : isCommand c = false := by rcases hc with rfl | rfl <;> rfl
      have hslash : c ≠ '\\' := by rcases hc with rfl | rfl <;> decide
      exact isSettled_cons.2 ⟨accent?_of_not_isCommand hcommand _,
        isSettled_cons.2 ⟨accent?_of_ne_slash hslash _, hclose⟩⟩
  have hcommand : accent? (command :: '\x7b' :: (arg ++ '\x7d' :: tail)) = none := by
    by_cases hslash : command = '\\'
    · rw [hslash]
      exact accent?_of_not_isCommand rfl _
    · exact accent?_of_ne_slash hslash _
  exact isSettled_cons.2 ⟨accent?_brace command _, isSettled_cons.2 ⟨hcommand,
    isSettled_cons.2 ⟨accent?_of_ne_slash (by decide) _, hargument⟩⟩⟩

theorem exists_braceArguments_cons (c : Char) (rest : List Char) :
    ∃ tail, braceArguments (c :: rest) = c :: tail := by
  obtain ⟨middle, hmiddle⟩ := exists_brace_cons shrinks_letterArgument? c rest
  rw [braceArguments, hmiddle]
  exact exists_brace_cons shrinks_dotlessArgument? c middle

theorem head?_braceArguments (text : List Char) : (braceArguments text).head? = text.head? := by
  cases text with
  | nil => rfl
  | cons c rest =>
    obtain ⟨tail, htail⟩ := exists_braceArguments_cons c rest
    rw [htail, List.head?_cons, List.head?_cons]

theorem letterArgument?_blank (h : Text.isBlank c) (text : List Char) :
    letterArgument? (c :: text) = letterArgument? text :=
  letterArgument?_blanks (List.forall_mem_singleton.2 h) text

/-- Where no letter is found, there is none to be found after the passes. -/
theorem letterArgument?_braceArguments (h : letterArgument? text = none) :
    letterArgument? (braceArguments text) = none := by
  induction text with
  | nil => rfl
  | cons c rest ih =>
    cases hblank : Text.isBlank c with
    | true =>
      rw [letterArgument?_blank hblank] at h
      rw [braceArguments_cons (accent?_of_ne_slash (ne_slash_of_isBlank hblank) rest),
        letterArgument?_blank hblank, ih h]
    | false =>
      obtain ⟨tail, htail⟩ := exists_braceArguments_cons c rest
      rw [htail, letterArgument?_cons hblank]
      cases hletter : isLetter c with
      | false => rfl
      | true =>
        rw [braceArguments_cons (accent?_of_ne_slash (ne_slash_of_isLetter hletter) rest)] at htail
        rw [letterArgument?_cons hblank, hletter, ← head?_braceArguments rest,
          (List.cons.inj htail).2] at h
        split_ifs at h ⊢
        rfl

theorem dotlessArgument?_braceArguments (h : dotlessArgument? text = none) :
    dotlessArgument? (braceArguments text) = none := by
  induction text with
  | nil => rfl
  | cons c rest ih =>
    cases hblank : Text.isBlank c with
    | true =>
      rw [dotlessArgument?_blank hblank] at h
      rw [braceArguments_cons (accent?_of_ne_slash (ne_slash_of_isBlank hblank) rest),
        dotlessArgument?_blank hblank, ih h]
    | false =>
      by_cases hc : c = '\\'
      · subst hc
        cases rest with
        | nil => rfl
        | cons d after =>
          obtain ⟨tail, htail⟩ := exists_braceArguments_cons_cons '\\' d after
          rw [dotlessArgument?_slash] at h
          rw [htail, dotlessArgument?_slash]
          split_ifs at h ⊢
          rfl
      · rw [braceArguments_cons (accent?_of_ne_slash hc rest), dotlessArgument?_cons hblank hc]

/-- A character with which nothing is found begins nothing after the passes either. -/
theorem accent?_cons_braceArguments (h : accent? (c :: rest) = none) :
    accent? (c :: braceArguments rest) = none := by
  by_cases hc : c = '\\'
  · subst hc
    cases rest with
    | nil => exact h
    | cons command after =>
      cases hcommand : isCommand command with
      | false =>
        obtain ⟨tail, htail⟩ := exists_braceArguments_cons command after
        rw [htail]
        exact accent?_of_not_isCommand hcommand tail
      | true =>
        cases hnext : accent? (command :: after) with
        | some found =>
          -- the command is the backslash of the accent behind it
          obtain ⟨-, -, hfound, -⟩ := exists_blanks_of_accent? hnext
          rw [braceArguments_found hnext]
          exact accent?_command hfound '\\' _
        | none =>
          obtain ⟨hletter, hdotless⟩ := Option.or_eq_none_iff.1 h
          rw [List.tail_cons, (Option.or_eq_none_iff.1 hnext).1] at hdotless
          have hfirst : letterArgument? after = none := by
            simpa [found?_cons, hcommand] using hletter
          have hsecond : dotlessArgument? after = none := by
            simpa [found?_cons, hcommand] using hdotless
          rw [braceArguments_cons hnext]
          apply accent?_eq_none
          · simp [found?_cons, letterArgument?_braceArguments hfirst]
          · simp [found?_cons, dotlessArgument?_braceArguments hsecond]
  · exact accent?_of_ne_slash hc _

theorem isSettled_braceArguments (text : List Char) : IsSettled (braceArguments text) := by
  induction text using accent_induction with
  | nil => exact isSettled_nil
  | accent text found haccent ih =>
    obtain ⟨-, -, -, -, harg⟩ := exists_blanks_of_accent? haccent
    rw [braceArguments_found haccent]
    exact isSettled_braced harg ih
  | cons c rest haccent ih =>
    rw [braceArguments_cons haccent]
    exact isSettled_cons.2 ⟨accent?_cons_braceArguments haccent, ih⟩

/-- A text and the same text with braces around the arguments of some accent commands. The blanks in
front of these arguments are gone. -/
inductive Bracing : List Char → List Char → Prop
  | nil : Bracing [] []
  | keep (c : Char) {text out : List Char} : Bracing text out → Bracing (c :: text) (c :: out)
  | embrace {command : Char} {blanks arg text out : List Char} :
      isCommand command → (∀ b ∈ blanks, Text.isBlank b) → IsArgument arg → Bracing text out →
        Bracing ('\\' :: command :: (blanks ++ (arg ++ text)))
          ('\\' :: command :: '\x7b' :: (arg ++ '\x7d' :: out))

theorem bracing_braceArguments (text : List Char) : Bracing text (braceArguments text) := by
  induction text using accent_induction with
  | nil => exact .nil
  | accent text found haccent ih =>
    rw [braceArguments_found haccent]
    obtain ⟨blanks, rfl, hcommand, hblanks, harg⟩ := exists_blanks_of_accent? haccent
    exact .embrace hcommand hblanks harg ih
  | cons c rest haccent ih =>
    rw [braceArguments_cons haccent]
    exact ih.keep c

def bare (text : List Char) : List Char :=
  text.filter fun c => !Text.isBlank c && c != '\x7b' && c != '\x7d'

theorem bare_blanks {blanks : List Char} (h : ∀ b ∈ blanks, Text.isBlank b) : bare blanks = [] := by
  rw [bare, List.filter_eq_nil_iff]
  intro b hb
  simp [h b hb]

theorem Bracing.bare (h : Bracing text out) : bare out = bare text := by
  induction h with
  | nil => rfl
  | keep c _ ih => simp only [Accent.bare, List.filter_cons] at ih ⊢; rw [ih]
  | @embrace command blanks arg text out _ hblanks _ _ ih =>
    have hnone : blanks.filter (fun c => !Text.isBlank c && c != '\x7b' && c != '\x7d') = [] :=
      bare_blanks hblanks
    simp only [Accent.bare] at ih
    simp [Accent.bare, List.filter_cons, List.filter_append, hnone, ih]

/-- How many groups are open behind a text if so many are open before it. There is no answer if the
text closes a group that is not open. Escapes do not count. -/
def openAfter : Nat → List Char → Option Nat
  | n, [] => some n
  | n, c :: rest =>
    if c = '\x7b' then openAfter (n + 1) rest
    else if c = '\x7d' then
      if n = 0 then none else openAfter (n - 1) rest
    else openAfter n rest

theorem openAfter_cons {n : Nat} (hopen : c ≠ '\x7b') (hclose : c ≠ '\x7d') (rest : List Char) :
    openAfter n (c :: rest) = openAfter n rest := by
  rw [openAfter, if_neg hopen, if_neg hclose]

theorem openAfter_append {n : Nat} (h : ∀ c ∈ text, c ≠ '\x7b' ∧ c ≠ '\x7d') (rest : List Char) :
    openAfter n (text ++ rest) = openAfter n rest := by
  induction text with
  | nil => rfl
  | cons c text ih =>
    rw [List.forall_mem_cons] at h
    rw [List.cons_append, openAfter_cons h.1.1 h.1.2, ih h.2]

theorem IsArgument.ne_brace (h : IsArgument arg) : ∀ c ∈ arg, c ≠ '\x7b' ∧ c ≠ '\x7d' := by
  rcases h with ⟨c, hc, rfl⟩ | ⟨c, hc, rfl⟩
  · rw [List.forall_mem_singleton]
    constructor <;> rintro rfl <;> cases hc
  · rw [List.forall_mem_cons, List.forall_mem_singleton]
    rcases hc with rfl | rfl <;> decide

theorem ne_braces_of_isBlank (h : Text.isBlank c) : c ≠ '\x7b' ∧ c ≠ '\x7d' := by
  constructor <;> rintro rfl <;> cases h

theorem ne_braces_of_isCommand (h : isCommand c) : c ≠ '\x7b' ∧ c ≠ '\x7d' := by
  constructor <;> rintro rfl <;> cases h

theorem Bracing.openAfter (h : Bracing text out) (n : Nat) :
    openAfter n out = openAfter n text := by
  induction h generalizing n with
  | nil => rfl
  | keep c _ ih => simp only [Accent.openAfter, ih]
  | @embrace command blanks arg text out hcommand hblanks harg _ ih =>
    obtain ⟨hopen, hclose⟩ := ne_braces_of_isCommand hcommand
    calc Accent.openAfter n ('\\' :: command :: '\x7b' :: (arg ++ '\x7d' :: out))
        = Accent.openAfter (n + 1) (arg ++ '\x7d' :: out) := by
          rw [openAfter_cons (by decide) (by decide), openAfter_cons hopen hclose,
            Accent.openAfter, if_pos rfl]
      _ = Accent.openAfter n out := by
          rw [openAfter_append harg.ne_brace]
          rfl
      _ = Accent.openAfter n text := ih n
      _ = Accent.openAfter n ('\\' :: command :: (blanks ++ (arg ++ text))) := by
          rw [openAfter_cons (by decide) (by decide), openAfter_cons hopen hclose,
            openAfter_append fun b hb => ne_braces_of_isBlank (hblanks b hb),
            openAfter_append harg.ne_brace]

/-- The passes over accents write a normal form: they find nothing in it, they leave a text as it is
exactly if they find nothing in it, and a second time changes nothing. They only put braces around
arguments and drop the blanks before these, so that the rest of the text stays, and with it the
groups that it opens and closes. -/
theorem braceArguments_normal (text : List Char) :
    braceArguments (braceArguments text) = braceArguments text ∧
      IsSettled (braceArguments text) ∧ (braceArguments text = text ↔ IsSettled text) ∧
      Bracing text (braceArguments text) ∧
      bare (braceArguments text) = bare text ∧
      ∀ n, openAfter n (braceArguments text) = openAfter n text := by
  have hsettled := isSettled_braceArguments text
  have hbracing := bracing_braceArguments text
  refine ⟨braceArguments_of_isSettled hsettled, hsettled, ?_, hbracing, hbracing.bare,
    hbracing.openAfter⟩
  constructor
  · intro h
    rwa [h] at hsettled
  · exact braceArguments_of_isSettled

example : braceArguments "\\'\\i\\\\ \\j\x7b\\Ha\x7d".toList =
    "\\'\x7b\\i\x7d\\\\\x7b\\j\x7d\x7b\\H\x7ba\x7d\x7d".toList := by
  decide +kernel

end Accent
end Latex
end FormulaTex
