import FormulaTex.Latex.Accent
import Mathlib.Tactic.SplitIfs

/-!
# What the passes over accents do

Each of the two passes looks for an accent command with an argument, puts braces around the
argument, and goes on behind it. Together they are one pass that looks for both kinds of arguments
at once. The one kind does not get in the way of the other, but for two backslashes before a dotless
letter: the second of them is a command too, with the bare letter for its argument, and the first
pass takes it.
-/

namespace FormulaTex
namespace Latex
namespace Accent

/-- An accent command with its argument, found at the start of a text, and the text after it. -/
structure Found where
  command : Char
  argument : List Char
  rest : List Char
deriving DecidableEq, Repr

namespace Found

/-- The command with its argument in braces, before other text. -/
def braced (found : Found) (tail : List Char) : List Char :=
  '\\' :: found.command :: '\x7b' :: (found.argument ++ '\x7d' :: tail)

end Found

/-- What one pass finds at the start of a text. -/
def found? (argument? : List Char → Option (List Char × List Char)) : List Char → Option Found
  | '\\' :: command :: after =>
    if isCommand command then (argument? after).map fun found => ⟨command, found.1, found.2⟩
    else none
  | _ => none

/-- What the two passes find at the start of a text. A dotless letter is not found where the first
pass has taken the command for the backslash of its own. -/
def accent? (text : List Char) : Option Found :=
  (found? letterArgument? text).or
    (if (found? letterArgument? text.tail).isSome then none else found? dotlessArgument? text)

variable {c : Char}

theorem toNat_of_isLetter (h : isLetter c) :
    (65 ≤ c.toNat ∧ c.toNat ≤ 90) ∨ (97 ≤ c.toNat ∧ c.toNat ≤ 122) := by
  rw [isLetter, Bool.or_eq_true] at h
  rcases h with h | h
  · obtain ⟨hlow, hhigh⟩ := of_decide_eq_true h
    exact .inl ⟨UInt32.le_iff_toNat_le.1 hlow, UInt32.le_iff_toNat_le.1 hhigh⟩
  · obtain ⟨hlow, hhigh⟩ := Bool.and_eq_true_iff.1 h
    exact .inr ⟨UInt32.le_iff_toNat_le.1 (of_decide_eq_true hlow),
      UInt32.le_iff_toNat_le.1 (of_decide_eq_true hhigh)⟩

theorem isBlank_of_isLetter (h : isLetter c) : Text.isBlank c = false := by
  have hrange := toNat_of_isLetter h
  simp only [Text.isBlank, Bool.or_eq_false_iff, Bool.and_eq_false_iff, decide_eq_false_iff_not,
    beq_eq_false_iff_ne]
  omega

theorem isBlank_of_isCommand (h : isCommand c) : Text.isBlank c = false := by
  simp only [isCommand, List.contains_iff_mem, List.mem_cons, List.not_mem_nil, or_false] at h
  rcases h with h | h | h | h | h | h | h | h | h | h | h | h | h | h <;> rw [h] <;> rfl

theorem ne_slash_of_isBlank (h : Text.isBlank c) : c ≠ '\\' := by
  rintro rfl
  cases h

theorem ne_slash_of_isLetter (h : isLetter c) : c ≠ '\\' := by
  rintro rfl
  cases h

theorem ne_brace_of_isBlank (h : Text.isBlank c) : c ≠ '\x7b' := by
  rintro rfl
  cases h

theorem ne_brace_of_isLetter (h : isLetter c) : c ≠ '\x7b' := by
  rintro rfl
  cases h

variable {text rest arg : List Char}

theorem letterArgument?_cons (h : Text.isBlank c = false) (rest : List Char) :
    letterArgument? (c :: rest) =
      if isLetter c && rest.head? != some '\x7b' then some ([c], rest) else none := by
  simp [letterArgument?, h]

theorem dotlessArgument?_blank (h : Text.isBlank c) (text : List Char) :
    dotlessArgument? (c :: text) = dotlessArgument? text := by
  simp [dotlessArgument?, h]

theorem dotlessArgument?_slash (c : Char) (rest : List Char) :
    dotlessArgument? ('\\' :: c :: rest) =
      if c = 'i' ∨ c = 'j' then some (['\\', c], rest) else none := by
  simp [dotlessArgument?, show Text.isBlank '\\' = false from rfl]

theorem dotlessArgument?_cons (hblank : Text.isBlank c = false) (hc : c ≠ '\\') (rest : List Char) :
    dotlessArgument? (c :: rest) = none := by
  simp [dotlessArgument?, hblank, hc]

theorem letterArgument?_blanks {blanks : List Char} (h : ∀ b ∈ blanks, Text.isBlank b)
    (text : List Char) : letterArgument? (blanks ++ text) = letterArgument? text := by
  rw [letterArgument?, List.dropWhile_append_of_pos h, letterArgument?]

theorem dotlessArgument?_blanks {blanks : List Char} (h : ∀ b ∈ blanks, Text.isBlank b)
    (text : List Char) : dotlessArgument? (blanks ++ text) = dotlessArgument? text := by
  rw [dotlessArgument?, List.dropWhile_append_of_pos h, dotlessArgument?]

theorem exists_blanks (text : List Char) :
    ∃ blanks rest, text = blanks ++ rest ∧ (∀ b ∈ blanks, Text.isBlank b) ∧
      ∀ c ∈ rest.head?, Text.isBlank c = false := by
  refine ⟨text.takeWhile Text.isBlank, text.dropWhile Text.isBlank,
    List.takeWhile_append_dropWhile.symm, List.all_eq_true.1 List.all_takeWhile, ?_⟩
  intro c hc
  have hhead := List.head?_dropWhile_not Text.isBlank text
  rwa [Option.mem_def.1 hc] at hhead

theorem exists_of_letterArgument? (h : letterArgument? text = some (arg, rest)) :
    ∃ blanks c, text = blanks ++ c :: rest ∧ (∀ b ∈ blanks, Text.isBlank b) ∧ isLetter c ∧
      arg = [c] := by
  obtain ⟨blanks, after, rfl, hblanks, hafter⟩ := exists_blanks text
  rw [letterArgument?_blanks hblanks] at h
  cases after with
  | nil => cases h
  | cons c tail =>
    rw [letterArgument?_cons (hafter c rfl)] at h
    split_ifs at h with hletter
    cases h
    rw [Bool.and_eq_true] at hletter
    exact ⟨blanks, c, rfl, hblanks, hletter.1, rfl⟩

theorem exists_of_dotlessArgument? (h : dotlessArgument? text = some (arg, rest)) :
    ∃ blanks c, text = blanks ++ '\\' :: c :: rest ∧ (∀ b ∈ blanks, Text.isBlank b) ∧
      (c = 'i' ∨ c = 'j') ∧ arg = ['\\', c] := by
  obtain ⟨blanks, after, rfl, hblanks, hafter⟩ := exists_blanks text
  rw [dotlessArgument?_blanks hblanks] at h
  cases after with
  | nil => cases h
  | cons d tail =>
    by_cases hslash : d = '\\'
    · subst hslash
      cases tail with
      | nil => cases h
      | cons c tail =>
        rw [dotlessArgument?_slash] at h
        split_ifs at h with hc
        cases h
        exact ⟨blanks, c, rfl, hblanks, hc, rfl⟩
    · rw [dotlessArgument?_cons (hafter d rfl) hslash] at h
      cases h

def Shrinks (argument? : List Char → Option (List Char × List Char)) : Prop :=
  ∀ text arg rest, argument? text = some (arg, rest) → rest.length < text.length

theorem shrinks_letterArgument? : Shrinks letterArgument? := by
  intro text arg rest h
  obtain ⟨blanks, c, rfl, -⟩ := exists_of_letterArgument? h
  simp only [List.length_append, List.length_cons]
  omega

theorem shrinks_dotlessArgument? : Shrinks dotlessArgument? := by
  intro text arg rest h
  obtain ⟨blanks, c, rfl, -⟩ := exists_of_dotlessArgument? h
  simp only [List.length_append, List.length_cons]
  omega

section

variable {argument? : List Char → Option (List Char × List Char)} {found : Found}

theorem found?_cons (command : Char) (after : List Char) :
    found? argument? ('\\' :: command :: after) =
      if isCommand command then (argument? after).map fun found => ⟨command, found.1, found.2⟩
      else none := rfl

theorem found?_of_ne_slash (h : c ≠ '\\') (rest : List Char) :
    found? argument? (c :: rest) = none := by
  cases rest <;> simp [found?, h]

theorem found?_single (c : Char) : found? argument? [c] = none := by
  simp [found?]

theorem found?_of_not_isCommand (h : isCommand c = false) (rest : List Char) :
    found? argument? ('\\' :: c :: rest) = none := by
  simp [found?_cons, h]

theorem exists_of_found? (h : found? argument? text = some found) :
    ∃ after, text = '\\' :: found.command :: after ∧ isCommand found.command ∧
      argument? after = some (found.argument, found.rest) := by
  match text, h with
  | [], h => cases h
  | [c], h =>
    rw [found?_single] at h
    cases h
  | c :: command :: after, h =>
    by_cases hc : c = '\\'
    · subst hc
      rw [found?_cons] at h
      split_ifs at h with hcommand
      obtain ⟨⟨arg, rest⟩, hargument, rfl⟩ := Option.map_eq_some_iff.1 h
      exact ⟨after, rfl, hcommand, hargument⟩
    · rw [found?_of_ne_slash hc] at h
      cases h

theorem braceFrom_found (n : Nat) (h : found? argument? (c :: rest) = some found) :
    braceFrom argument? (n + 1) (c :: rest) = found.braced (braceFrom argument? n found.rest) := by
  obtain ⟨after, htext, hcommand, hargument⟩ := exists_of_found? h
  obtain ⟨rfl, rfl⟩ := List.cons.inj htext
  simp [braceFrom, hcommand, hargument, Found.braced]

theorem braceFrom_cons (n : Nat) (h : found? argument? (c :: rest) = none) :
    braceFrom argument? (n + 1) (c :: rest) = c :: braceFrom argument? n rest := by
  by_cases hc : c = '\\'
  · subst hc
    cases rest with
    | nil => simp [braceFrom]
    | cons command after =>
      rw [found?_cons] at h
      cases hcommand : isCommand command with
      | true =>
        have hargument : argument? after = none := by simpa [hcommand] using h
        simp [braceFrom, hcommand, hargument]
      | false => simp [braceFrom, hcommand]
  · simp [braceFrom, hc]

/-- As many steps as there are characters are enough. -/
theorem braceFrom_eq (hs : Shrinks argument?) {m n : Nat} (hm : text.length ≤ m)
    (hn : text.length ≤ n) : braceFrom argument? m text = braceFrom argument? n text := by
  induction m generalizing n text with
  | zero =>
    rw [List.length_eq_zero_iff.1 (Nat.le_zero.1 hm)]
    cases n <;> rfl
  | succ m ih =>
    cases text with
    | nil => cases n <;> rfl
    | cons c rest =>
      obtain ⟨n, rfl⟩ : ∃ k, n = k + 1 := ⟨n - 1, by simp at hn; omega⟩
      simp only [List.length_cons, Nat.add_le_add_iff_right] at hm hn
      cases h : found? argument? (c :: rest) with
      | none => rw [braceFrom_cons m h, braceFrom_cons n h, ih hm hn]
      | some found =>
        obtain ⟨after, htext, -, hargument⟩ := exists_of_found? h
        have hshort := hs _ _ _ hargument
        have hlength := congrArg List.length (List.cons.inj htext).2
        rw [List.length_cons] at hlength
        rw [braceFrom_found m h, braceFrom_found n h]
        exact congrArg found.braced (ih (by omega) (by omega))

theorem brace_nil : brace argument? [] = [] := rfl

theorem brace_cons (h : found? argument? (c :: rest) = none) :
    brace argument? (c :: rest) = c :: brace argument? rest :=
  braceFrom_cons rest.length h

theorem brace_found (hs : Shrinks argument?) (h : found? argument? text = some found) :
    brace argument? text = found.braced (brace argument? found.rest) := by
  obtain ⟨after, rfl, -, hargument⟩ := exists_of_found? h
  have hshort := hs _ _ _ hargument
  refine (braceFrom_found _ h).trans (congrArg found.braced ?_)
  exact braceFrom_eq hs (by rw [List.length_cons]; omega) (Nat.le_refl _)

theorem exists_brace_cons (hs : Shrinks argument?) (c : Char) (rest : List Char) :
    ∃ tail, brace argument? (c :: rest) = c :: tail := by
  cases h : found? argument? (c :: rest) with
  | none => exact ⟨_, brace_cons h⟩
  | some found =>
    obtain ⟨after, htext, -⟩ := exists_of_found? h
    obtain ⟨rfl, -⟩ := List.cons.inj htext
    exact ⟨_, brace_found hs h⟩

/-- A pass keeps the first two characters. -/
theorem exists_brace_cons_cons (hs : Shrinks argument?) (c d : Char) (rest : List Char) :
    ∃ tail, brace argument? (c :: d :: rest) = c :: d :: tail := by
  cases h : found? argument? (c :: d :: rest) with
  | none =>
    obtain ⟨tail, htail⟩ := exists_brace_cons hs d rest
    exact ⟨tail, by rw [brace_cons h, htail]⟩
  | some found =>
    obtain ⟨after, htext, -⟩ := exists_of_found? h
    obtain ⟨rfl, hafter⟩ := List.cons.inj htext
    obtain ⟨rfl, -⟩ := List.cons.inj hafter
    exact ⟨_, brace_found hs h⟩

end

/-- The first pass leaves dotless letters where they are. -/
theorem dotlessArgument?_brace (text : List Char) :
    dotlessArgument? (brace letterArgument? text) =
      (dotlessArgument? text).map fun found => (found.1, brace letterArgument? found.2) := by
  induction text with
  | nil => rfl
  | cons c rest ih =>
    cases hblank : Text.isBlank c with
    | true =>
      rw [brace_cons (found?_of_ne_slash (ne_slash_of_isBlank hblank) rest),
        dotlessArgument?_blank hblank, dotlessArgument?_blank hblank, ih]
    | false =>
      by_cases hc : c = '\\'
      · subst hc
        cases rest with
        | nil => rfl
        | cons d tail =>
          rw [dotlessArgument?_slash]
          split_ifs with hd
          · have hcommand : isCommand d = false := by rcases hd with rfl | rfl <;> rfl
            have hslash : d ≠ '\\' := by rcases hd with rfl | rfl <;> decide
            rw [brace_cons (found?_of_not_isCommand hcommand tail),
              brace_cons (found?_of_ne_slash hslash tail), dotlessArgument?_slash, if_pos hd]
            rfl
          · obtain ⟨front, hfront⟩ := exists_brace_cons_cons shrinks_letterArgument? '\\' d tail
            rw [hfront, dotlessArgument?_slash, if_neg hd]
            rfl
      · rw [brace_cons (found?_of_ne_slash hc rest), dotlessArgument?_cons hblank hc,
          dotlessArgument?_cons hblank hc]
        rfl

/-- The second pass does nothing to an argument that has its braces. -/
theorem brace_braced {found : Found} (hargument : ∃ c, isLetter c ∧ found.argument = [c])
    (tail : List Char) :
    brace dotlessArgument? (found.braced tail) = found.braced (brace dotlessArgument? tail) := by
  obtain ⟨command, argument, rest⟩ := found
  obtain ⟨c, hc, rfl⟩ := hargument
  have hopen (after : List Char) : dotlessArgument? ('\x7b' :: after) = none :=
    dotlessArgument?_cons rfl (by decide) after
  have hfirst (after : List Char) :
      found? dotlessArgument? ('\\' :: command :: '\x7b' :: after) = none := by
    simp [found?_cons, hopen]
  have hsecond (after : List Char) :
      found? dotlessArgument? (command :: '\x7b' :: after) = none := by
    by_cases hcommand : command = '\\'
    · rw [hcommand]
      exact found?_of_not_isCommand rfl after
    · exact found?_of_ne_slash hcommand _
  simp only [Found.braced, List.cons_append, List.nil_append]
  rw [brace_cons (hfirst _), brace_cons (hsecond _), brace_cons (found?_of_ne_slash (by decide) _),
    brace_cons (found?_of_ne_slash (ne_slash_of_isLetter hc) _),
    brace_cons (found?_of_ne_slash (by decide) _)]

theorem dotlessArgument?_command (h : isCommand c) (rest : List Char) :
    dotlessArgument? (c :: '\x7b' :: rest) = none := by
  by_cases hc : c = '\\'
  · rw [hc, dotlessArgument?_slash]
    rfl
  · exact dotlessArgument?_cons (isBlank_of_isCommand h) hc _

/-- Where the first pass finds nothing, the second finds what both find together. -/
theorem found?_brace (h : found? letterArgument? text = none) :
    found? dotlessArgument? (brace letterArgument? text) =
      (accent? text).map fun found =>
        { found with rest := brace letterArgument? found.rest } := by
  rw [accent?, h, Option.none_or]
  match text, h with
  | [], _ => rfl
  | [c], h =>
    rw [brace_cons h, brace_nil, found?_single, ite_self]
    rfl
  | c :: command :: after, h =>
    by_cases hc : c = '\\'
    · subst hc
      rw [brace_cons h, List.tail_cons]
      cases hbehind : found? letterArgument? (command :: after) with
      | none =>
        rw [brace_cons hbehind, found?_cons, found?_cons, dotlessArgument?_brace]
        cases isCommand command <;> simp [Function.comp_def]
      | some found =>
        obtain ⟨rest, htext, hcommand, -⟩ := exists_of_found? hbehind
        obtain ⟨rfl, -⟩ := List.cons.inj htext
        rw [brace_found shrinks_letterArgument? hbehind, Found.braced, found?_cons,
          dotlessArgument?_command hcommand]
        rfl
    · rw [brace_cons h, found?_of_ne_slash hc, found?_of_ne_slash hc, ite_self]
      rfl

theorem braceArguments_nil : braceArguments [] = [] := rfl

/-- Both passes keep the first two characters. -/
theorem exists_braceArguments_cons_cons (c d : Char) (rest : List Char) :
    ∃ tail, braceArguments (c :: d :: rest) = c :: d :: tail := by
  obtain ⟨middle, hmiddle⟩ := exists_brace_cons_cons shrinks_letterArgument? c d rest
  rw [braceArguments, hmiddle]
  exact exists_brace_cons_cons shrinks_dotlessArgument? c d middle

/-- Both passes together put braces around the argument that they find. -/
theorem braceArguments_found {found : Found} (h : accent? text = some found) :
    braceArguments text = found.braced (braceArguments found.rest) := by
  unfold braceArguments
  cases hletter : found? letterArgument? text with
  | some first =>
    obtain ⟨after, -, -, hargument⟩ := exists_of_found? hletter
    obtain ⟨blanks, c, -, -, hc, harg⟩ := exists_of_letterArgument? hargument
    have hfound : first = found := by simpa [accent?, hletter] using h
    rw [brace_found shrinks_letterArgument? hletter, brace_braced ⟨c, hc, harg⟩, hfound]
  | none =>
    have hsecond := found?_brace hletter
    rw [h] at hsecond
    rw [brace_found shrinks_dotlessArgument? hsecond]
    rfl

/-- Both passes together go on where they find nothing. -/
theorem braceArguments_cons (h : accent? (c :: rest) = none) :
    braceArguments (c :: rest) = c :: braceArguments rest := by
  unfold braceArguments
  have hletter : found? letterArgument? (c :: rest) = none := (Option.or_eq_none_iff.1 h).1
  have hsecond := found?_brace hletter
  rw [h, brace_cons hletter] at hsecond
  rw [brace_cons hletter, brace_cons hsecond]

end Accent
end Latex
end FormulaTex
