import FormulaTex.Proofs.Accents
import FormulaTex.Proofs.Reading
import Mathlib.Data.List.Basic
import Mathlib.Data.Nat.Init

/-!
# Legacy accents character by character

Text with legacy accents ought to be the characters of the text one after another: those of ASCII as
they are escaped, and all others as their macros, with braces around the argument of each accent
command. The passes over accents look at the whole text instead, and they take two characters for an
accent command whether a longer control word begins there or not. So they split control words, and
they find accents across characters. The text is what it ought to be exactly when they find accents
nowhere but at the accent commands of the macros.
-/

namespace FormulaTex
namespace Latex
namespace Accent

def startsLetter : List Char → Bool
  | c :: _ => isLetter c
  | [] => false

/-- The argument of an accent command: a letter, or a dotless letter that no longer word begins
with. -/
def ownArgument? (text : List Char) : Option (List Char × List Char) :=
  match text.dropWhile Text.isBlank with
  | [] => none
  | '\\' :: c :: rest =>
    if (c = 'i' ∨ c = 'j') ∧ startsLetter rest = false then some (['\\', c], rest) else none
  | c :: rest => if isLetter c then some ([c], rest) else none

/-- Whether the control sequence that a text begins with may name an accent: a single character that
no letter lengthens, and no second backslash. -/
def isShort : List Char → Bool
  | '\\' :: c :: rest => c != '\\' && !(isLetter c && startsLetter rest)
  | _ => false

/-- The accent command that a text begins with. -/
def own? (text : List Char) : Option Found :=
  if isShort text then found? ownArgument? text else none

theorem ownArgument?_blanks {blanks : List Char} (h : ∀ b ∈ blanks, Text.isBlank b)
    (text : List Char) : ownArgument? (blanks ++ text) = ownArgument? text := by
  rw [ownArgument?, List.dropWhile_append_of_pos h, ownArgument?]

theorem ownArgument?_slash (c : Char) (rest : List Char) :
    ownArgument? ('\\' :: c :: rest) =
      if (c = 'i' ∨ c = 'j') ∧ startsLetter rest = false then some (['\\', c], rest) else none := by
  simp [ownArgument?, show Text.isBlank '\\' = false from rfl]

theorem ownArgument?_cons {c : Char} (hblank : Text.isBlank c = false) (hc : c ≠ '\\')
    (rest : List Char) :
    ownArgument? (c :: rest) = if isLetter c then some ([c], rest) else none := by
  simp [ownArgument?, hblank, hc]

variable {text rest arg : List Char} {found : Found}

theorem exists_of_ownArgument? (h : ownArgument? text = some (arg, rest)) :
    ∃ blanks, text = blanks ++ (arg ++ rest) ∧ (∀ b ∈ blanks, Text.isBlank b) ∧
      ((∃ c, isLetter c ∧ arg = [c]) ∨ ∃ c, (c = 'i' ∨ c = 'j') ∧ arg = ['\\', c]) := by
  obtain ⟨blanks, after, rfl, hblanks, hafter⟩ := exists_blanks text
  rw [ownArgument?_blanks hblanks] at h
  cases after with
  | nil => cases h
  | cons c tail =>
    by_cases hc : c = '\\'
    · subst hc
      cases tail with
      | nil => cases h
      | cons d tail =>
        rw [ownArgument?_slash] at h
        split_ifs at h with hd
        cases h
        exact ⟨blanks, rfl, hblanks, .inr ⟨d, hd.1, rfl⟩⟩
    · rw [ownArgument?_cons (hafter c rfl) hc] at h
      split_ifs at h with hletter
      cases h
      exact ⟨blanks, rfl, hblanks, .inl ⟨c, hletter, rfl⟩⟩

/-- Whatever argument a pass finds in place of the argument of a command, it is the argument. -/
theorem of_ownArgument? (h : ownArgument? text = some (arg, rest)) (after : List Char) :
    (letterArgument? (text ++ after) = none ∨
      letterArgument? (text ++ after) = some (arg, rest ++ after)) ∧
    (dotlessArgument? (text ++ after) = none ∨
      dotlessArgument? (text ++ after) = some (arg, rest ++ after)) := by
  obtain ⟨blanks, rfl, hblanks, harg⟩ := exists_of_ownArgument? h
  rw [List.append_assoc, List.append_assoc, letterArgument?_blanks hblanks,
    dotlessArgument?_blanks hblanks]
  rcases harg with ⟨c, hc, rfl⟩ | ⟨c, hc, rfl⟩
  · have hblank := isBlank_of_isLetter hc
    refine ⟨?_, .inl (dotlessArgument?_cons hblank (ne_slash_of_isLetter hc) _)⟩
    rw [List.singleton_append, letterArgument?_cons hblank]
    split_ifs
    · exact .inr rfl
    · exact .inl rfl
  · refine ⟨.inl (letterArgument?_cons rfl _), .inr ?_⟩
    rw [List.cons_append, List.singleton_append, dotlessArgument?_slash, if_pos hc]

theorem exists_of_own? (h : own? text = some found) :
    ∃ after, text = '\\' :: found.command :: after ∧ isCommand found.command ∧
      found.command ≠ '\\' ∧ ownArgument? after = some (found.argument, found.rest) := by
  unfold own? at h
  split_ifs at h with hshort
  obtain ⟨after, rfl, hcommand, hargument⟩ := exists_of_found? h
  have hslash : found.command ≠ '\\' := by
    intro hslash
    simp [isShort, hslash] at hshort
  exact ⟨after, rfl, hcommand, hslash, hargument⟩

theorem own?_of_ne_slash {c : Char} (h : c ≠ '\\') (rest : List Char) :
    own? (c :: rest) = none := by
  rw [own?, found?_of_ne_slash h, ite_self]

theorem length_of_own? (h : own? text = some found) : found.rest.length < text.length := by
  obtain ⟨after, rfl, -, -, hargument⟩ := exists_of_own? h
  obtain ⟨blanks, rfl, -⟩ := exists_of_ownArgument? hargument
  simp only [List.length_cons, List.length_append]
  omega

/-- Whatever the passes find in place of the command of a macro, it is the command. -/
theorem accent?_of_own? (h : own? text = some found) (after : List Char)
    (hsome : (accent? (text ++ after)).isSome) :
    accent? (text ++ after) = some { found with rest := found.rest ++ after } := by
  obtain ⟨tail, rfl, hcommand, -, hargument⟩ := exists_of_own? h
  obtain ⟨hletter, hdotless⟩ := of_ownArgument? hargument after
  rw [accent?, List.cons_append, List.cons_append, found?_cons, found?_cons, if_pos hcommand,
    if_pos hcommand] at hsome ⊢
  rcases hletter with hletter | hletter
  · rcases hdotless with hdotless | hdotless
    · simp [hletter, hdotless] at hsome
    · rw [hletter, hdotless] at hsome ⊢
      split_ifs at hsome ⊢
      · cases hsome
      · rfl
  · rw [hletter]
    rfl

/-- A macro with braces around the arguments of its accent commands. -/
def accented (text : List Char) : List Char :=
  match _h : own? text with
  | some found => found.braced (accented found.rest)
  | none =>
    match text with
    | '\\' :: c :: rest => '\\' :: c :: accented rest
    | c :: rest => c :: accented rest
    | [] => []
termination_by text.length
decreasing_by
  · exact length_of_own? _h
  · rw [List.length_cons, List.length_cons]
    omega
  · exact Nat.lt_succ_self _

theorem accented_nil : accented [] = [] := by
  rw [accented.eq_def]
  rfl

theorem accented_pair {c : Char} (h : own? ('\\' :: c :: rest) = none) :
    accented ('\\' :: c :: rest) = '\\' :: c :: accented rest := by
  rw [accented.eq_def]
  split
  · next found hfound =>
      rw [h] at hfound
      cases hfound
  · rfl

theorem accented_single {c : Char} (h : own? [c] = none) : accented [c] = [c] := by
  rw [accented.eq_def]
  split
  · next found hfound =>
      rw [h] at hfound
      cases hfound
  · simp [accented_nil]

/-- The passes find accents in a part of a text, with other text after it, exactly where the part
has accent commands of its own. -/
def IsSteady (part after : List Char) : Prop :=
  ∀ before rest, part = before ++ rest → rest ≠ [] →
    ((accent? (rest ++ after)).isSome ↔ Paired before ∧ (own? rest).isSome)

theorem forall_splits_cons {p : List Char → List Char → Prop} {c : Char} {text : List Char} :
    (∀ before rest, c :: text = before ++ rest → rest ≠ [] → p before rest) ↔
      p [] (c :: text) ∧
        ∀ before rest, text = before ++ rest → rest ≠ [] → p (c :: before) rest := by
  constructor
  · intro h
    exact ⟨h [] _ rfl (by simp), fun before rest htext => h (c :: before) rest (by simp [htext])⟩
  · rintro ⟨hfirst, hlater⟩ before rest htext hrest
    cases before with
    | nil =>
      rw [← show c :: text = rest from htext]
      exact hfirst
    | cons d before =>
      obtain ⟨rfl, htail⟩ := List.cons.inj htext
      exact hlater before rest htail hrest

theorem paired_cons {c : Char} (h : c ≠ '\\') : Paired (c :: rest) ↔ Paired rest := by
  simp [Paired, pieces_char h]

theorem paired_pair (c : Char) : Paired ('\\' :: c :: rest) ↔ Paired rest := by
  simp [Paired, pieces_pair]

theorem accent?_of_ne_slash {c : Char} (h : c ≠ '\\') (rest : List Char) :
    accent? (c :: rest) = none := by
  rw [accent?, found?_of_ne_slash h, found?_of_ne_slash h, ite_self]
  rfl

variable {after tail : List Char} {c : Char}

theorem accent?_of_not_isCommand (hcommand : isCommand c = false) (rest : List Char) :
    accent? ('\\' :: c :: rest) = none := by
  rw [accent?, found?_of_not_isCommand hcommand, found?_of_not_isCommand hcommand, ite_self]
  rfl

theorem isSteady_nil (after : List Char) : IsSteady [] after := by
  intro before rest h hrest
  exact absurd (List.append_eq_nil_iff.1 h.symm).2 hrest

theorem isSteady_cons (h : c ≠ '\\') : IsSteady (c :: rest) after ↔ IsSteady rest after := by
  unfold IsSteady
  rw [forall_splits_cons]
  simp [accent?_of_ne_slash h, own?_of_ne_slash h, paired_cons h]

theorem isSteady_slash : IsSteady ['\\'] after ↔ accent? ('\\' :: after) = none := by
  unfold IsSteady
  rw [forall_splits_cons]
  have hnone : own? ['\\'] = none := rfl
  simp [hnone]

theorem isSteady_pair :
    IsSteady ('\\' :: c :: rest) after ↔
      ((accent? ('\\' :: c :: (rest ++ after))).isSome ↔ (own? ('\\' :: c :: rest)).isSome) ∧
        accent? (c :: (rest ++ after)) = none ∧ IsSteady rest after := by
  have hlone : ¬ Paired ['\\'] := by decide
  have hnil : Paired [] := by decide
  unfold IsSteady
  rw [forall_splits_cons, forall_splits_cons]
  simp [hlone, hnil, paired_pair]

theorem isSteady_append {front : List Char} (h : ∀ c ∈ front, c ≠ '\\') :
    IsSteady (front ++ rest) after ↔ IsSteady rest after := by
  induction front with
  | nil => rfl
  | cons c front ih =>
    obtain ⟨hc, hfront⟩ := List.forall_mem_cons.1 h
    rw [List.cons_append, isSteady_cons hc, ih hfront]

theorem isSteady_of_own? (h : own? text = some found) :
    IsSteady text after ↔ (accent? (text ++ after)).isSome ∧ IsSteady found.rest after := by
  obtain ⟨tail, rfl, -, hslash, hargument⟩ := exists_of_own? h
  obtain ⟨blanks, rfl, hblanks, harg⟩ := exists_of_ownArgument? hargument
  have hrest : IsSteady (found.argument ++ found.rest) after ↔ IsSteady found.rest after := by
    rcases harg with ⟨c, hc, harg⟩ | ⟨c, hc, harg⟩
    · rw [harg, List.singleton_append, isSteady_cons (ne_slash_of_isLetter hc)]
    · have hcommand : isCommand c = false := by rcases hc with rfl | rfl <;> rfl
      have hplain : c ≠ '\\' := by rcases hc with rfl | rfl <;> decide
      rw [harg, List.cons_append, List.singleton_append, isSteady_pair, accent?_of_ne_slash hplain,
        accent?_of_not_isCommand hcommand, own?, found?_of_not_isCommand hcommand]
      simp
  rw [isSteady_pair, h, accent?_of_ne_slash hslash,
    isSteady_append fun b hb => ne_slash_of_isBlank (hblanks b hb), hrest]
  simp

theorem exists_cons_of_blanks {blanks : List Char} (hblanks : ∀ b ∈ blanks, Text.isBlank b)
    (hc : c ≠ '\x7b') (rest : List Char) :
    ∃ d tail, blanks ++ c :: rest = d :: tail ∧ d ≠ '\x7b' := by
  cases blanks with
  | nil => exact ⟨c, rest, rfl, hc⟩
  | cons b blanks => exact ⟨b, _, rfl, ne_brace_of_isBlank (hblanks b List.mem_cons_self)⟩

/-- The argument of a command that is found does not stand in braces yet. -/
theorem exists_of_accent? (h : accent? text = some found) :
    ∃ c after, text = '\\' :: found.command :: c :: after ∧ c ≠ '\x7b' := by
  rcases Option.or_eq_some_iff.1 h with hletter | ⟨-, hdotless⟩
  · obtain ⟨after, rfl, -, hargument⟩ := exists_of_found? hletter
    obtain ⟨blanks, c, rfl, hblanks, hc, -⟩ := exists_of_letterArgument? hargument
    obtain ⟨d, tail, htail, hd⟩ :=
      exists_cons_of_blanks hblanks (ne_brace_of_isLetter hc) found.rest
    exact ⟨d, tail, by rw [htail], hd⟩
  · split_ifs at hdotless
    obtain ⟨after, rfl, -, hargument⟩ := exists_of_found? hdotless
    obtain ⟨blanks, c, rfl, hblanks, -⟩ := exists_of_dotlessArgument? hargument
    obtain ⟨d, tail, htail, hd⟩ :=
      exists_cons_of_blanks hblanks (show '\\' ≠ '\x7b' by decide) (c :: found.rest)
    exact ⟨d, tail, by rw [htail], hd⟩

theorem exists_cons_of_own? (h : own? text = some found) :
    ∃ c after, text = '\\' :: found.command :: c :: after ∧ c ≠ '\x7b' := by
  obtain ⟨after, rfl, -, -, hargument⟩ := exists_of_own? h
  obtain ⟨blanks, rfl, hblanks, ⟨c, hc, harg⟩ | ⟨c, -, harg⟩⟩ := exists_of_ownArgument? hargument
  · obtain ⟨d, tail, htail, hd⟩ :=
      exists_cons_of_blanks hblanks (ne_brace_of_isLetter hc) found.rest
    exact ⟨d, tail, by rw [harg, List.singleton_append, htail], hd⟩
  · obtain ⟨d, tail, htail, hd⟩ :=
      exists_cons_of_blanks hblanks (show '\\' ≠ '\x7b' by decide) (c :: found.rest)
    exact ⟨d, tail, by rw [harg, List.cons_append, List.singleton_append, htail], hd⟩

/-- What the passes make of a text differs from the text right after the first command that they
find. -/
theorem braceArguments_cons_iff (h : tail.take 2 = rest.take 2) :
    braceArguments (c :: rest) = c :: tail ↔
      accent? (c :: rest) = none ∧ braceArguments rest = tail := by
  cases haccent : accent? (c :: rest) with
  | none => simp [braceArguments_cons haccent]
  | some found =>
    obtain ⟨d, after, htext, hd⟩ := exists_of_accent? haccent
    obtain ⟨rfl, rfl⟩ := List.cons.inj htext
    rw [braceArguments_found haccent, Found.braced]
    simp only [List.cons.injEq, true_and, reduceCtorEq, false_and, iff_false]
    rintro rfl
    simp only [List.take_succ_cons, List.take_zero, List.cons.injEq, and_true, true_and] at h
    exact hd h.symm

theorem take_two_cons (h : tail.take 2 = rest.take 2) (c : Char) :
    (c :: tail).take 2 = (c :: rest).take 2 := by
  have hone := congrArg (List.take 1) h
  simpa [List.take_take] using hone

/-- Braces come after the first two characters of a command. -/
theorem take_two_accented (htail : tail.take 2 = after.take 2) (text : List Char) :
    (accented text ++ tail).take 2 = (text ++ after).take 2 := by
  fun_induction accented text with
  | case1 text found hown ih =>
    obtain ⟨rest, rfl, -⟩ := exists_of_own? hown
    rfl
  | case2 c rest hown ih => rfl
  | case3 c rest hown hpair ih => exact take_two_cons ih c
  | case4 => exact htail

/-- A part of a text comes out as a macro ought to exactly if it is steady. -/
theorem braceArguments_append_iff (htail : tail.take 2 = after.take 2) (part : List Char) :
    braceArguments (part ++ after) = accented part ++ tail ↔
      IsSteady part after ∧ braceArguments after = tail := by
  fun_induction accented part with
  | case1 part found hown ih =>
    rw [isSteady_of_own? hown]
    cases haccent : accent? (part ++ after) with
    | some other =>
      have hother : other = { found with rest := found.rest ++ after } := by
        have hfound := accent?_of_own? hown after (by simp [haccent])
        rw [haccent] at hfound
        exact Option.some.inj hfound
      rw [braceArguments_found haccent, hother]
      simp [Found.braced, ih]
    | none =>
      -- The passes keep the first two characters and go on, so no brace comes third.
      obtain ⟨c, rest, rfl, hc⟩ := exists_cons_of_own? hown
      obtain ⟨tail, htail⟩ := exists_braceArguments_cons_cons found.command c (rest ++ after)
      rw [List.cons_append] at haccent
      rw [List.cons_append, braceArguments_cons haccent, List.cons_append, List.cons_append, htail]
      simp [Found.braced, hc]
  | case2 c rest hown ih =>
    have hrest := take_two_accented htail rest
    rw [List.cons_append, List.cons_append, List.cons_append, List.cons_append,
      braceArguments_cons_iff (take_two_cons hrest c), braceArguments_cons_iff hrest, ih,
      isSteady_pair, hown]
    simp [and_assoc]
  | case3 c rest hown hpair ih =>
    have hrest := take_two_accented htail rest
    rw [List.cons_append, List.cons_append, braceArguments_cons_iff hrest, ih]
    by_cases hc : c = '\\'
    · subst hc
      cases rest with
      | nil => simp [isSteady_slash, isSteady_nil]
      | cons d rest => exact (hpair d rest hown HEq.rfl rfl rfl).elim
    · simp [isSteady_cons hc, accent?_of_ne_slash hc]
  | case4 =>
    rw [List.nil_append, List.nil_append]
    simp [isSteady_nil]

variable {block : Char → List Char}

theorem take_two_flatMap (block : Char → List Char) (text : List Char) :
    (text.flatMap fun c => accented (block c)).take 2 = (text.flatMap block).take 2 := by
  induction text with
  | nil => rfl
  | cons c rest ih =>
    rw [List.flatMap_cons, List.flatMap_cons]
    exact take_two_accented ih (block c)

theorem forall_suffix_cons {p : Char → List Char → Prop} :
    (∀ d after, d :: after <:+ c :: rest → p d after) ↔
      p c rest ∧ ∀ d after, d :: after <:+ rest → p d after := by
  simp only [List.suffix_cons_iff, List.cons.injEq]
  constructor
  · intro h
    exact ⟨h c rest (.inl ⟨rfl, rfl⟩), fun d after hafter => h d after (.inr hafter)⟩
  · rintro ⟨hfirst, hlater⟩ d after (⟨rfl, rfl⟩ | hafter)
    · exact hfirst
    · exact hlater d after hafter

/-- A text comes out character by character exactly if the block of each character is steady before
the blocks that come after it. -/
theorem braceArguments_flatMap_iff (block : Char → List Char) (text : List Char) :
    braceArguments (text.flatMap block) = text.flatMap (fun c => accented (block c)) ↔
      ∀ c after, c :: after <:+ text → IsSteady (block c) (after.flatMap block) := by
  induction text with
  | nil => simp [braceArguments_nil]
  | cons c rest ih =>
    rw [List.flatMap_cons, List.flatMap_cons,
      braceArguments_append_iff (take_two_flatMap block rest), ih, forall_suffix_cons]

/-- A control word that begins with the name of an accent is always split. -/
theorem not_isSteady_of_word {front : List Char} {d : Char} (hcommand : isCommand c)
    (hc : isLetter c) (hd : isLetter d)
    (hopen : (rest ++ after).head? ≠ some '\x7b') :
    ¬ IsSteady (front ++ '\\' :: c :: d :: rest) after := by
  intro hsteady
  have hfound := hsteady front ('\\' :: c :: d :: rest) rfl (List.cons_ne_nil _ _)
  have hword : own? ('\\' :: c :: d :: rest) = none := by
    simp [own?, isShort, startsLetter, hc, hd]
  have hargument : letterArgument? (d :: (rest ++ after)) = some ([d], rest ++ after) := by
    rw [letterArgument?_cons (isBlank_of_isLetter hd), hd, Bool.true_and,
      if_pos (bne_iff_ne.2 hopen)]
  have haccent : (accent? ('\\' :: c :: d :: (rest ++ after))).isSome := by
    simp [accent?, found?_cons, hcommand, hargument]
  rw [hword] at hfound
  exact Bool.noConfusion (hfound.1 haccent).2

end Accent

open Accent (accented IsSteady)

variable {fragment : Char → List Char} {c : Char} {after : List Char}

def block (fragment : Char → List Char) (c : Char) : List Char :=
  if c.toNat < 0x80 then escapeChar c else fragment c

/-- A text with legacy accents ought to be this, where `fragment` gives the macros. -/
def perCharacter (fragment : Char → List Char) (text : List Char) : List Char :=
  text.flatMap fun c => if c.toNat < 0x80 then escapeChar c else accented (fragment c)

/-- A text with legacy accents, whatever puts macros in place of the characters outside ASCII. -/
def escapeBy (encode : List Char → List Char) (text : List Char) : List Char :=
  if isAscii (escape text) then escape text else Accent.braceArguments (encode (escape text))

theorem toList_escapeText_legacy (text : String) :
    (escapeText true text).toList = escapeBy Accent.encode text.toList := by
  unfold escapeText escapeBy Accent.convert
  cases h : isAscii (escape text.toList) <;> simp [h]

theorem flatMap_escapeChar (hascii : ∀ c, c.toNat < 0x80 → fragment c = [c]) (c : Char) :
    (escapeChar c).flatMap fragment = block fragment c := by
  cases hs : isSpecial c with
  | true =>
    have hc := toNat_lt_of_isSpecial hs
    simp [escapeChar, block, hs, hc, hascii c hc, hascii '\\' (by decide)]
  | false =>
    by_cases hc : c.toNat < 0x80
    · simp [escapeChar, block, hs, hc, hascii c hc]
    · simp [escapeChar, block, hs, hc]

theorem flatMap_escape (hascii : ∀ c, c.toNat < 0x80 → fragment c = [c]) (text : List Char) :
    (escape text).flatMap fragment = text.flatMap (block fragment) := by
  rw [escape, List.flatMap_assoc]
  simp only [flatMap_escapeChar hascii]

theorem own?_escapeChar (c : Char) : Accent.own? (escapeChar c) = none := by
  cases hs : isSpecial c with
  | true =>
    rw [escapeChar, if_pos hs, Accent.own?, Accent.found?_cons]
    simp [Accent.ownArgument?]
  | false =>
    rw [escapeChar, if_neg (by simp [hs]), Accent.own?, Accent.found?_single, ite_self]

theorem accented_escapeChar (c : Char) : accented (escapeChar c) = escapeChar c := by
  have hnone := own?_escapeChar c
  cases hs : isSpecial c with
  | true =>
    rw [escapeChar, if_pos hs] at hnone ⊢
    rw [Accent.accented_pair hnone, Accent.accented_nil]
  | false =>
    rw [escapeChar, if_neg (by simp [hs])] at hnone ⊢
    exact Accent.accented_single hnone

theorem accented_block (fragment : Char → List Char) (c : Char) :
    accented (block fragment c) =
      if c.toNat < 0x80 then escapeChar c else accented (fragment c) := by
  unfold block
  split
  · exact accented_escapeChar c
  · rfl

theorem isCommand_of_isSpecial (hs : isSpecial c) :
    c ≠ '^' → c ≠ '~' → Accent.isCommand c = false :=
  of_isSpecial (fun d => d ≠ '^' → d ≠ '~' → Accent.isCommand d = false) hs rfl

/-- A character of ASCII is steady, whatever comes next, unless it is a backslash or gets one while
it is the name of an accent. -/
theorem isSteady_block (hc : c.toNat < 0x80) (hslash : c ≠ '\\') (hhat : c ≠ '^')
    (htilde : c ≠ '~') : IsSteady (block fragment c) after := by
  have hnone := own?_escapeChar c
  rw [block, if_pos hc]
  cases hs : isSpecial c with
  | true =>
    rw [escapeChar, if_pos hs] at hnone ⊢
    rw [Accent.isSteady_pair, hnone,
      Accent.accent?_of_not_isCommand (isCommand_of_isSpecial hs hhat htilde),
      Accent.accent?_of_ne_slash hslash]
    simp [Accent.isSteady_nil]
  | false =>
    rw [escapeChar, if_neg (by simp [hs]), Accent.isSteady_cons hslash]
    exact Accent.isSteady_nil after

theorem fragment_of_ascii (hc : c.toNat < 0x80) : Accent.fragment c = [c] := by
  have hmacro : Accent.macros.lookup 0x7F = none := by decide +kernel
  unfold Accent.fragment
  split
  · rfl
  · have hdelete : c.toNat = 0x7F := by omega
    rw [hdelete, hmacro]

/-- With legacy accents a text comes out character by character exactly if it has characters of
ASCII only, or if no accent is found but at the accent commands of the macros. -/
theorem escapeBy_eq_perCharacter_iff (encode : List Char → List Char) (fragment : Char → List Char)
    (text : List Char) (hascii : ∀ c, c.toNat < 0x80 → fragment c = [c])
    (hencode : encode (escape text) = (escape text).flatMap fragment) :
    escapeBy encode text = perCharacter fragment text ↔
      isAscii text ∨
        ∀ c after, c :: after <:+ text →
          IsSteady (block fragment c) (after.flatMap (block fragment)) := by
  have hblocks : perCharacter fragment text =
      text.flatMap fun c => accented (block fragment c) := by
    simp only [perCharacter, accented_block]
  rw [escapeBy, isAscii_escape]
  cases htext : isAscii text with
  | true =>
    have hplain : perCharacter fragment text = escape text := by
      refine List.flatMap_congr fun c hc => if_pos ?_
      simpa using List.all_eq_true.1 htext c hc
    simp [hplain]
  | false =>
    rw [hblocks, hencode, flatMap_escape hascii]
    simpa using Accent.braceArguments_flatMap_iff (block fragment) text

theorem escapeText_eq_perCharacter_cafe :
    (escapeText true "café 5%").toList = perCharacter Accent.fragment "café 5%".toList ∧
      perCharacter Accent.fragment "café 5%".toList = "caf\\'\x7be\x7d 5\\%".toList := by
  have hascii : ∀ c, c.toNat < 0x80 → Accent.fragment c = [c] := fun c => fragment_of_ascii
  have hencode : Accent.encode (escape "café 5%".toList) =
      (escape "café 5%".toList).flatMap Accent.fragment := by decide +kernel
  have hacute : IsSteady (block Accent.fragment 'é')
      (" 5%".toList.flatMap (block Accent.fragment)) := by
    have hfound : (Accent.accent? (block Accent.fragment 'é' ++
        " 5%".toList.flatMap (block Accent.fragment))).isSome := by decide +kernel
    have hown : Accent.own? (block Accent.fragment 'é') = some ⟨'\x27', ['e'], []⟩ := by
      decide +kernel
    exact (Accent.isSteady_of_own? hown).2 ⟨hfound, Accent.isSteady_nil _⟩
  refine ⟨?_, by decide +kernel⟩
  rw [toList_escapeText_legacy,
    escapeBy_eq_perCharacter_iff Accent.encode Accent.fragment "café 5%".toList hascii hencode]
  right
  have htext : "café 5%".toList = ['c', 'a', 'f', 'é', ' ', '5', '%'] := rfl
  simp only [htext, Accent.forall_suffix_cons]
  refine ⟨?_, ?_, ?_, hacute, ?_, ?_, ?_, by simp⟩
  all_goals exact isSteady_block (by decide) (by decide) (by decide) (by decide)

/-- The first letter of a word is taken for an accent, and so is an escaped character before a
letter. -/
theorem escapeText_ne_perCharacter_kappa :
    Accent.encode (escape "κ".toList) = (escape "κ".toList).flatMap Accent.fragment ∧
      (escapeText true "κ").toList ≠ perCharacter Accent.fragment "κ".toList ∧
      escapeText true "κ" = "\\ensuremath\x7b\\k\x7ba\x7dppa\x7d" ∧
      perCharacter Accent.fragment "κ".toList = "\\ensuremath\x7b\\kappa\x7d".toList ∧
      escapeText true "a^b" = "a\\^b" ∧
      escapeText true "a^b é" = "a\\^\x7bb\x7d \\'\x7be\x7d" := by
  decide +kernel

end Latex
end FormulaTex
