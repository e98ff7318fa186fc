import FormulaTex.Proofs.Reading
import Mathlib.Data.List.Chain

/-!
# Arguments

A mark for a script takes one argument: a group in braces, a single character, or a control sequence
with the groups and bracketed texts that follow it. What comes after one argument is no longer part
of the script. Some characters are never an argument: a reader skips blanks and acts on the others.
-/

namespace FormulaTex
namespace Latex

def isBlank (c : Char) : Bool :=
  [' ', '\t', '\n', '\r'].contains c

/-- The characters that a reader acts on at once. -/
def isActing (c : Char) : Bool :=
  ['\\', '\x7b', '\x7d', '$', '&', '#', '^', '_', '%'].contains c

/-- The texts that a control sequence may take as its arguments. -/
inductive IsArguments : List Piece → Prop where
  | nil : IsArguments []
  | group {body rest : List Piece} (hbody : Nested (braces body)) (hrest : IsArguments rest) :
      IsArguments (.char '\x7b' :: (body ++ .char '\x7d' :: rest))
  /-- A bracket inside a group does not end a text in brackets. -/
  | option {body rest : List Piece} (hbody : Nested (braces body))
      (hinner : ∀ a b, body = a ++ .char ']' :: b → ¬ Nested (braces a))
      (hrest : IsArguments rest) :
      IsArguments (.char '[' :: (body ++ .char ']' :: rest))

def Piece.passes (test : Char → Bool) : Piece → Bool
  | .char c => test c
  | _ => false

/-- What follows the name of a control sequence. Blanks after a control word do not count. -/
def afterName (c : Char) (rest : List Piece) : List Piece :=
  if Accent.isLetter c then
    (rest.dropWhile (Piece.passes Accent.isLetter)).dropWhile (Piece.passes isBlank)
  else rest

/-- The texts that a mark takes as one argument, to the end. -/
inductive IsArgument : List Piece → Prop where
  | group {body : List Piece} (hbody : Nested (braces body)) :
      IsArgument (.char '\x7b' :: (body ++ [.char '\x7d']))
  | char {c : Char} (hblank : isBlank c = false) (hacting : isActing c = false) :
      IsArgument [.char c]
  | control {c : Char} {rest : List Piece} (h : IsArguments (afterName c rest)) :
      IsArgument (.pair c :: rest)

theorem not_isArgument_nil : ¬ IsArgument [] := by
  intro h
  cases h

variable {text : List Char}

/-- A backslash that is left alone at the end takes the next character with it. -/
theorem pieces_concat_of_not_paired (h : ¬ Paired text) (c : Char) :
    ∃ front, pieces (text ++ [c]) = front ++ [.pair c] := by
  induction text using pieces.induct with
  | case1 => exact absurd (by simp [Paired]) h
  | case2 d =>
    have hd : d = '\\' := by
      by_contra hd
      exact h (by simp [Paired, pieces_char hd])
    exact ⟨[], by rw [hd]; rfl⟩
  | case3 d rest ih =>
    obtain ⟨front, hfront⟩ := ih (by simpa [Paired, pieces_pair] using h)
    exact ⟨.pair d :: front, by simp [pieces_pair, hfront]⟩
  | case4 d e rest hd ih =>
    obtain ⟨front, hfront⟩ := ih (by simpa [Paired, pieces_char hd] using h)
    rw [List.cons_append] at hfront
    exact ⟨.char d :: front, by simp [pieces_char hd, hfront]⟩

/-- A text before a brace that stands by itself is read as it is without the brace. -/
theorem paired_of_pieces_concat {body : List Piece}
    (h : pieces (text ++ ['\x7d']) = body ++ [.char '\x7d']) :
    Paired text ∧ pieces text = body := by
  have hpaired : Paired text := by
    by_contra hlone
    obtain ⟨front, hfront⟩ := pieces_concat_of_not_paired hlone '\x7d'
    rw [hfront] at h
    cases (List.append_inj' h rfl).2
  rw [pieces_append hpaired] at h
  exact ⟨hpaired, (List.append_inj' h rfl).1⟩

theorem selfContained_of_pieces_concat {body : List Piece}
    (h : pieces (text ++ ['\x7d']) = body ++ [.char '\x7d']) (hbody : Nested (braces body)) :
    SelfContained text := by
  obtain ⟨hpaired, rfl⟩ := paired_of_pieces_concat h
  exact ⟨hpaired, hbody⟩

theorem pieces_concat_of_selfContained (h : SelfContained text) :
    pieces (text ++ ['\x7d']) = pieces text ++ [.char '\x7d'] :=
  pieces_append h.1 _

/-- A text in braces is one argument exactly when it nests by itself. -/
theorem isArgument_braced_iff :
    IsArgument (pieces ('\x7b' :: (text ++ ['\x7d']))) ↔ SelfContained text := by
  rw [pieces_char (by decide)]
  constructor
  · intro h
    generalize hrest : pieces (text ++ ['\x7d']) = rest at h
    cases h with
    | group hbody => exact selfContained_of_pieces_concat hrest hbody
    | char _ hacting => cases hacting
  · intro h
    rw [pieces_concat_of_selfContained h]
    exact .group h.2

theorem isActing_eq_false {c : Char} (hc : c ≠ '\\') (hs : isSpecial c = false) :
    isActing c = false := by
  simp only [isSpecial, isActing, List.contains_eq_mem, decide_eq_false_iff_not, List.mem_cons,
    List.not_mem_nil, or_false, not_or] at hs ⊢
  simp [hc, hs]

theorem isBlank_eq_false {c : Char} (hs : isSpecial c) : isBlank c = false :=
  of_isSpecial (isBlank · = false) hs rfl

theorem ne_slash_of_isDigit {c : Char} (h : c.isDigit) : c ≠ '\\' := by
  rintro rfl
  cases h

theorem isSpecial_of_isDigit {c : Char} (h : c.isDigit) : isSpecial c = false := by
  by_contra hs
  have hdigit := of_isSpecial (·.isDigit = false) (by simpa using hs) rfl
  rw [hdigit] at h
  cases h

/-- Of several characters that begin with an ordinary one, only the first is taken. -/
theorem IsArgument.of_char_cons {c : Char} (hs : isSpecial c = false) {rest : List Piece}
    (h : IsArgument (.char c :: rest)) : rest = [] ∧ isBlank c = false := by
  cases h with
  | group => cases hs
  | char hblank _ => exact ⟨rfl, hblank⟩

/-- A single character is an argument once it is escaped, but for blanks and the backslash. -/
theorem isArgument_escape_singleton (c : Char) :
    IsArgument (pieces (escape [c])) ↔ c ≠ '\\' ∧ isBlank c = false := by
  by_cases hc : c = '\\'
  · rw [hc]
    constructor
    · intro h
      cases h
    · intro h
      exact absurd rfl h.1
  have hpieces := pieces_escape_cons hc [] []
  rw [List.append_nil] at hpieces
  rw [hpieces]
  cases hs : isSpecial c with
  | true =>
    have hname : afterName c [] = [] := by simp [afterName]
    have hargument : IsArgument [.pair c] := .control (by rw [hname]; exact .nil)
    simpa [escapedPiece, hs, hc, isBlank_eq_false hs] using hargument
  | false =>
    have hpiece : escapedPiece c = .char c := by simp [escapedPiece, hs]
    rw [hpiece]
    constructor
    · intro h
      exact ⟨hc, (h.of_char_cons hs).2⟩
    · intro h
      exact .char h.2 (isActing_eq_false hc hs)

theorem eq_nil_of_pieces (h : pieces text = []) : text = [] := by
  match text with
  | [] => rfl
  | [c] => simp [pieces] at h
  | c :: d :: rest =>
    unfold pieces at h
    split at h <;> cases h

theorem eq_nil_of_escape (h : escape text = []) : text = [] := by
  cases text with
  | nil => rfl
  | cons c rest =>
    have hc : escapeChar c ≠ [] := by
      unfold escapeChar
      split <;> simp
    exact absurd (List.append_eq_nil_iff.1 h).1 hc

/-- A text that is short, or that begins with an ordinary character, is an argument exactly when it
is a single character. -/
theorem isArgument_escape_iff
    (h : text.length ≤ 1 ∨ ∃ c rest, text = c :: rest ∧ c ≠ '\\' ∧ isSpecial c = false) :
    IsArgument (pieces (escape text)) ↔ ∃ c, text = [c] ∧ c ≠ '\\' ∧ isBlank c = false := by
  match text with
  | [] =>
    constructor
    · intro hargument
      cases hargument
    · rintro ⟨c, hc, -⟩
      cases hc
  | [c] =>
    rw [isArgument_escape_singleton]
    constructor
    · intro hc
      exact ⟨c, rfl, hc⟩
    · rintro ⟨d, hd, hc⟩
      cases hd
      exact hc
  | c :: d :: rest =>
    rcases h with h | ⟨b, tail, htext, hb, hs⟩
    · simp at h
    cases htext
    have hpieces := pieces_escape_cons hb (d :: rest) []
    rw [List.append_nil, List.append_nil, escapedPiece, hs] at hpieces
    rw [hpieces]
    constructor
    · intro hargument
      have hrest := eq_nil_of_escape (eq_nil_of_pieces (hargument.of_char_cons hs).1)
      cases hrest
    · rintro ⟨e, he, -⟩
      cases he

/-- A bracket that stands bare in an escaped text comes right after a pair of backslashes. -/
def Shielded (p q : Piece) : Prop :=
  q = .char '\x7b' ∨ q = .char '[' → p = .pair '\\'

theorem shielded_escapedPiece (p : Piece) (c : Char) : Shielded p (escapedPiece c) := by
  rintro (h | h) <;>
  · unfold escapedPiece at h
    split at h
    · cases h
    · cases h
      contradiction

theorem isChain_escape (text : List Char) :
    ∀ p, List.IsChain Shielded (p :: pieces (escape text ++ ['\x7d'])) := by
  -- The induction takes a backslash of the text together with the character after it, since the
  -- escaping may have put a second backslash between them.
  induction text using pieces.induct with
  | case1 =>
    intro p
    exact List.isChain_pair.2 (by simp [Shielded])
  | case2 c =>
    intro p
    by_cases hc : c = '\\'
    · rw [hc]
      exact List.isChain_pair.2 (by simp [Shielded])
    · have hlast : List.IsChain Shielded [escapedPiece c, .char '\x7d'] :=
        List.isChain_pair.2 (by simp [Shielded])
      rw [pieces_escape_cons hc]
      exact List.isChain_cons_cons.2 ⟨shielded_escapedPiece p c, hlast⟩
  | case3 d rest ih =>
    intro p
    have hpair (c : Char) : Shielded p (.pair c) := by simp [Shielded]
    have hslash : isSpecial '\\' = false := rfl
    cases hs : isSpecial d with
    | true =>
      have hd : d ≠ '\\' := by
        rintro rfl
        cases hs
      have hpieces : pieces (escape ('\\' :: d :: rest) ++ ['\x7d']) =
          .pair '\\' :: .char d :: pieces (escape rest ++ ['\x7d']) := by
        simp [escape, escapeChar, hslash, hs, pieces_pair, pieces_char hd]
      rw [hpieces]
      exact List.isChain_cons_cons.2 ⟨hpair _, List.isChain_cons_cons.2 ⟨fun _ => rfl, ih _⟩⟩
    | false =>
      have hpieces : pieces (escape ('\\' :: d :: rest) ++ ['\x7d']) =
          .pair d :: pieces (escape rest ++ ['\x7d']) := by
        simp [escape, escapeChar, hslash, hs, pieces_pair]
      rw [hpieces]
      exact List.isChain_cons_cons.2 ⟨hpair _, ih _⟩
  | case4 c d rest hc ih =>
    intro p
    rw [pieces_escape_cons hc]
    exact List.isChain_cons_cons.2 ⟨shielded_escapedPiece p c, ih _⟩

/-- An escaped text set upright is one argument exactly when it nests by itself. -/
theorem isArgument_upright_iff :
    IsArgument (pieces ("\\text\x7b".toList ++ (escape text ++ ['\x7d']))) ↔
      SelfContained (escape text) := by
  have hpieces : pieces ("\\text\x7b".toList ++ (escape text ++ ['\x7d'])) =
      .pair 't' :: .char 'e' :: .char 'x' :: .char 't' :: .char '\x7b' ::
        pieces (escape text ++ ['\x7d']) := by
    simp [pieces_pair, pieces_char]
  have hname (rest : List Piece) :
      afterName 't' (.char 'e' :: .char 'x' :: .char 't' :: .char '\x7b' :: rest) =
        .char '\x7b' :: rest := rfl
  have hchain := isChain_escape text .lone
  rw [hpieces]
  constructor
  · intro h
    generalize hrest : pieces (escape text ++ ['\x7d']) = rest at h hchain
    cases h with
    | control h =>
      rw [hname] at h
      cases h with
      | group hbody hmore =>
        -- A second argument would begin with a bracket right after the brace that closes the first.
        cases hmore with
        | nil => exact selfContained_of_pieces_concat hrest hbody
        | group =>
          obtain ⟨-, hshielded, -⟩ := List.isChain_cons_append_cons_cons.1 hchain
          cases hshielded (.inl rfl)
        | option =>
          obtain ⟨-, hshielded, -⟩ := List.isChain_cons_append_cons_cons.1 hchain
          cases hshielded (.inr rfl)
  · intro h
    refine .control ?_
    rw [hname, pieces_concat_of_selfContained h]
    exact .group h.2 .nil

end Latex
end FormulaTex
