import FormulaTex.Proofs.Arguments
import FormulaTex.Proofs.Walk

/-!
# Inert text

Escaped text is inert if a reader finds no special character in it but as part of a pair, and no
backslash that is left alone. The escaping puts a backslash in front of each special character and
leaves the backslashes of the text as they are. A backslash that the text has in front of a special
character takes the new one for its partner, and the special character then stands bare. Whether an
escaped text is inert can therefore be read off the text itself.
-/

namespace FormulaTex
namespace Latex

def Piece.escaped : Piece → List Piece
  | .char c => [escapedPiece c]
  | .pair c => if isSpecial c then [.pair '\\', .char c] else [.pair c]
  | .lone => [.lone]

/-- Nothing that a reader would act on, and nothing that reaches beyond the end. -/
structure IsInert (text : List Piece) : Prop where
  special : ∀ c, isSpecial c → .char c ∉ text
  paired : .lone ∉ text

/-- An upright group that the last brace closes, with nothing in it that a reader would act on. -/
def IsSealed (text : List Piece) : Prop :=
  ∃ body, text = pieces "\\text\x7b".toList ++ (body ++ [.char '\x7d']) ∧ IsInert body

variable {text : List Char}

theorem ne_slash_of_isSpecial {c : Char} (hs : isSpecial c) : c ≠ '\\' := by
  rintro rfl
  cases hs

/-- The pieces of an escaped text are those of the text, each of them escaped. -/
theorem pieces_escape_eq (text : List Char) :
    pieces (escape text) = (pieces text).flatMap Piece.escaped := by
  -- A backslash of the text is taken together with the character after it, since the escaping may
  -- put a second backslash between the two.
  induction text using pieces.induct with
  | case1 => rfl
  | case2 c =>
    by_cases hc : c = '\\'
    · rw [hc]
      rfl
    · have hpieces := pieces_escape_cons hc [] []
      rw [List.append_nil] at hpieces
      rw [hpieces, pieces_char hc]
      rfl
  | case3 d rest ih =>
    rw [pieces_pair, List.flatMap_cons, ← ih]
    cases hs : isSpecial d with
    | true =>
      simp [escape, escapeChar, Piece.escaped, hs, show isSpecial '\\' = false from rfl,
        pieces_pair, pieces_char (ne_slash_of_isSpecial hs)]
    | false =>
      simp [escape, escapeChar, Piece.escaped, hs, show isSpecial '\\' = false from rfl,
        pieces_pair]
  | case4 c d rest hc ih =>
    have hpieces := pieces_escape_cons hc (d :: rest) []
    rw [List.append_nil, List.append_nil] at hpieces
    rw [hpieces, pieces_char hc, List.flatMap_cons, ← ih]
    rfl

/-- A special character stands bare exactly when a backslash came with it. -/
theorem char_mem_pieces_escape {c : Char} (hs : isSpecial c) :
    .char c ∈ pieces (escape text) ↔ .pair c ∈ pieces text := by
  rw [pieces_escape_eq, List.mem_flatMap]
  constructor
  · rintro ⟨p, hp, hc⟩
    cases p with
    | char d =>
      by_cases hd : isSpecial d
      · simp [Piece.escaped, escapedPiece, hd] at hc
      · simp only [Piece.escaped, escapedPiece, hd, List.mem_singleton] at hc
        cases hc
        exact absurd hs hd
    | pair d =>
      by_cases hd : isSpecial d
      · simp only [Piece.escaped, hd, if_true, List.mem_cons, List.not_mem_nil, or_false] at hc
        rcases hc with hc | hc
        · cases hc
        · cases hc
          exact hp
      · simp [Piece.escaped, hd] at hc
    | lone => simp [Piece.escaped] at hc
  · intro h
    exact ⟨.pair c, h, by simp [Piece.escaped, hs]⟩

theorem paired_escape_iff : Paired (escape text) ↔ Paired text := by
  have hlone (p : Piece) : .lone ∈ p.escaped ↔ p = .lone := by
    cases p with
    | char c => by_cases hs : isSpecial c <;> simp [Piece.escaped, escapedPiece, hs]
    | pair c => by_cases hs : isSpecial c <;> simp [Piece.escaped, hs]
    | lone => simp [Piece.escaped]
  simp [Paired, pieces_escape_eq, List.mem_flatMap, hlone]

theorem isInert_escape_iff :
    IsInert (pieces (escape text)) ↔
      Paired text ∧ ∀ c, isSpecial c → .pair c ∉ pieces text := by
  constructor
  · rintro ⟨hspecial, hpaired⟩
    exact ⟨paired_escape_iff.1 hpaired, fun c hs hpair =>
      hspecial c hs ((char_mem_pieces_escape hs).2 hpair)⟩
  · rintro ⟨hpaired, hspecial⟩
    exact ⟨fun c hs hchar => hspecial c hs ((char_mem_pieces_escape hs).1 hchar),
      paired_escape_iff.2 hpaired⟩

/-- A text set upright is sealed exactly when it is inert. -/
theorem isSealed_upright_iff :
    IsSealed (pieces ("\\text\x7b".toList ++ (text ++ ['\x7d']))) ↔ IsInert (pieces text) := by
  have hopen : Paired "\\text\x7b".toList := by decide
  have hclose : pieces ['\x7d'] = [.char '\x7d'] := rfl
  rw [pieces_append hopen]
  constructor
  · rintro ⟨body, hbody, hinert⟩
    have hrest : pieces (text ++ ['\x7d']) = body ++ [.char '\x7d'] := List.append_cancel_left hbody
    obtain ⟨-, rfl⟩ := paired_of_pieces_concat hrest
    exact hinert
  · intro h
    exact ⟨pieces text, by rw [pieces_append h.paired, hclose], h⟩

end Latex

namespace Renderer

open Latex

variable {r : Renderer}

/-- A value at the root takes the first level of depth. -/
theorem draft_enter (hroom : 1 ≤ r.settings.maxDepth) (steps : List Step) :
    Steps.draft r ([.enter 1] ++ steps) = Steps.draft r steps := by
  have henter : (Step.enter 1).draft r = .empty := by
    simp [Step.draft, Step.fault?, Step.notes, Step.text, Nat.not_lt.mpr hroom, Draft.empty]
  rw [Steps.draft_append, Steps.draft_singleton, henter, Draft.empty_append]

theorem draft_upright (hlegacy : r.settings.legacyAccents = false) (text : String) :
    Steps.draft r (Steps.upright text) =
      ⟨[], .ok ("\\text\x7b" ++ (escapeText false text ++ "\x7d"))⟩ := by
  simp only [Steps.upright, Steps.draft_append, Steps.draft_singleton]
  simp [Step.draft, Step.fault?, Step.notes, Step.text, hlegacy, Draft.append_def, Draft.append,
    Except.map]

/-- Upright text rendered without legacy accents. A special character stands bare in it exactly if a
backslash came with it in the text, and a backslash is left alone exactly if one was. The group is
sealed as long as neither happens. -/
theorem render_textRun_sealed_iff (r : Renderer) (text : String)
    (hlegacy : r.settings.legacyAccents = false) (hroom : 1 ≤ r.settings.maxDepth) :
    let escaped := escapeText false text
    let latex := "\\text\x7b" ++ (escaped ++ "\x7d")
    r.render (.textRun text) = ⟨[], .ok latex⟩ ∧
      (∀ c, isSpecial c → (.char c ∈ pieces escaped.toList ↔ .pair c ∈ pieces text.toList)) ∧
      (Paired escaped.toList ↔ Paired text.toList) ∧
      (IsSealed (pieces latex.toList) ↔
        Paired text.toList ∧ ∀ c, isSpecial c → .pair c ∉ pieces text.toList) := by
  intro escaped latex
  have hescaped : escaped.toList = escape text.toList := toList_escapeText text
  have hlatex : latex.toList = "\\text\x7b".toList ++ (escape text.toList ++ ['\x7d']) := by
    simp [latex, hescaped]
  rw [hescaped, hlatex]
  refine ⟨?_, fun c hs => char_mem_pieces_escape hs, paired_escape_iff, ?_⟩
  · rw [render_eq_draft, Steps.of, draft_enter hroom]
    exact draft_upright hlegacy text
  · rw [isSealed_upright_iff]
    exact isInert_escape_iff

theorem render_textRun_sealed_braces :
    IsSealed (pieces "\\text\x7bset \\\x7ba\\_1, \\ldots\\\x7d\x7d".toList) := by
  have h := render_textRun_sealed_iff (.ofSettings {}) "set \x7ba_1, \\ldots\x7d" rfl (by decide)
  refine h.2.2.2.2 ⟨by decide, fun c hs hpair => ?_⟩
  have hc : c = 'l' := by simpa [pieces] using hpair
  rw [hc] at hs
  cases hs

/-- A text with an escape of its own. The comment that the percent sign opens takes the last brace
with it. -/
theorem not_isSealed_percent :
    let latex := "\\text\x7b50\\\\%\x7d"
    (Renderer.ofSettings {}).render (.textRun "50\\%") = ⟨[], .ok latex⟩ ∧
      .char '%' ∈ pieces (escapeText false "50\\%").toList ∧ ¬ IsSealed (pieces latex.toList) := by
  intro latex
  have hlatex : latex.toList = "\\text\x7b".toList ++ ("50\\\\%".toList ++ ['\x7d']) := by decide
  have hbare : .char '%' ∈ pieces "50\\\\%".toList := by decide
  refine ⟨rfl, hbare, ?_⟩
  rw [hlatex, isSealed_upright_iff]
  intro hinert
  exact hinert.special '%' rfl hbare

end Renderer

end FormulaTex
