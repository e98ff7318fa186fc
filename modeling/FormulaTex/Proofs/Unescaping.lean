import FormulaTex.Proofs.Inert
import Mathlib.Logic.ExistsUnique

/-!
# Escaped texts read back

The escaping of a text can be undone: without the backslash right before each special character the
escaped text is the text again. A backslash of the text itself is never taken for one that the
escaping has put there, because no special character of an escaped text comes right after it. The
escaped texts are exactly those in which each special character has a backslash right before it. A
rendered literal is an escaped text, in an upright group or on its own, and it tells which of the
two, so different literals never look the same.
-/

namespace FormulaTex
namespace Latex

def startsSpecial : List Char → Bool
  | c :: _ => isSpecial c
  | [] => false

/-- A text without the backslash right before each special character. -/
def unescape : List Char → List Char
  | [] => []
  | c :: rest => if c = '\\' ∧ startsSpecial rest then unescape rest else c :: unescape rest

/-- Each special character has a backslash right before it. -/
def IsEscaped (text : List Char) : Prop :=
  ∀ before c after, text = before ++ c :: after → isSpecial c → before.getLast? = some '\\'

/-- What a literal is rendered as without legacy accents. -/
def literalText (text : String) : String :=
  if text.length ≤ 1 ∨ text.toList.head?.any Char.isDigit then escapeText false text
  else "\\text\x7b" ++ (escapeText false text ++ "\x7d")

variable {text rest : List Char} {c : Char}

theorem escape_special (hs : isSpecial c) (rest : List Char) :
    escape (c :: rest) = '\\' :: c :: escape rest := by
  simp [escape, escapeChar, hs]

theorem escape_plain (hs : isSpecial c = false) (rest : List Char) :
    escape (c :: rest) = c :: escape rest := by
  simp [escape, escapeChar, hs]

theorem unescape_special (hs : isSpecial c) (rest : List Char) :
    unescape ('\\' :: c :: rest) = c :: unescape rest := by
  simp [unescape, startsSpecial, hs, ne_slash_of_isSpecial hs]

theorem unescape_cons (h : c = '\\' → startsSpecial rest = false) :
    unescape (c :: rest) = c :: unescape rest := by
  have hkept : ¬ (c = '\\' ∧ startsSpecial rest) := fun ⟨hc, hs⟩ => by simp [h hc] at hs
  rw [unescape, if_neg hkept]

theorem startsSpecial_escape (text : List Char) : startsSpecial (escape text) = false := by
  cases text with
  | nil => rfl
  | cons c rest =>
    cases hs : isSpecial c with
    | true => simp [escape_special hs, startsSpecial, isSpecial]
    | false => simp [escape_plain hs, startsSpecial, hs]

theorem unescape_escape (text : List Char) : unescape (escape text) = text := by
  induction text with
  | nil => rfl
  | cons c rest ih =>
    cases hs : isSpecial c with
    | true => rw [escape_special hs, unescape_special hs, ih]
    | false =>
      rw [escape_plain hs, unescape_cons fun _ => startsSpecial_escape rest, ih]

theorem escape_injective : Function.Injective escape :=
  Function.LeftInverse.injective unescape_escape

theorem IsEscaped.append {a b : List Char} (ha : IsEscaped a) (hb : IsEscaped b) :
    IsEscaped (a ++ b) := by
  intro before c after h hs
  rcases List.append_eq_append_iff.1 h with ⟨front, rfl, hback⟩ | ⟨back, rfl, hback⟩
  · rw [List.getLast?_append, hb front c after hback hs, Option.some_or]
  · cases back with
    | nil =>
      have hlast := hb [] c after hback.symm hs
      simp at hlast
    | cons d back =>
      obtain ⟨rfl, -⟩ := List.cons.inj hback
      exact ha before c back rfl hs

theorem isEscaped_escapeChar (c : Char) : IsEscaped (escapeChar c) := by
  intro before d after h hs
  cases hc : isSpecial c with
  | true =>
    rw [escapeChar, if_pos hc] at h
    rcases before with _ | ⟨b, _ | ⟨e, before⟩⟩
    · obtain ⟨rfl, -⟩ := List.cons.inj h
      cases hs
    · obtain ⟨rfl, -⟩ := List.cons.inj h
      rfl
    · simp at h
  | false =>
    rw [escapeChar, if_neg (by simp [hc])] at h
    cases before with
    | nil =>
      obtain ⟨rfl, -⟩ := List.cons.inj h
      rw [hc] at hs
      cases hs
    | cons b before => simp at h

theorem isEscaped_escape (text : List Char) : IsEscaped (escape text) := by
  induction text with
  | nil =>
    intro before c after h
    simp at h
  | cons c rest ih =>
    rw [show escape (c :: rest) = escapeChar c ++ escape rest from List.flatMap_cons]
    exact (isEscaped_escapeChar c).append ih

/-- What follows a part of an escaped text is escaped, if the part leaves no backslash for it. -/
theorem IsEscaped.of_append (front : List Char) (h : IsEscaped (front ++ rest))
    (hfront : front.getLast? = some '\\' → startsSpecial rest = false) : IsEscaped rest := by
  intro before c after hrest hs
  have hlast := h (front ++ before) c after (by simp [hrest]) hs
  rw [List.getLast?_append] at hlast
  cases hbefore : before.getLast? with
  | some d => simpa [hbefore] using hlast
  | none =>
    rw [List.getLast?_eq_none_iff.1 hbefore] at hrest
    rw [hbefore, Option.none_or] at hlast
    have hplain := hfront hlast
    simp [hrest, startsSpecial, hs] at hplain

theorem IsEscaped.head (h : IsEscaped (c :: rest)) : isSpecial c = false := by
  by_contra hs
  have hlast := h [] c rest rfl (by simpa using hs)
  simp at hlast

theorem escape_unescape : {text : List Char} → IsEscaped text → escape (unescape text) = text
  | [], _ => rfl
  | [c], h => by rw [unescape_cons fun _ => rfl, escape_plain h.head, unescape, escape_nil]
  | c :: d :: rest, h => by
    by_cases hpair : c = '\\' ∧ isSpecial d
    · obtain ⟨rfl, hs⟩ := hpair
      have hrest : IsEscaped rest := by
        refine IsEscaped.of_append ['\\', d] h ?_
        intro hlast
        simp at hlast
        exact absurd hlast (ne_slash_of_isSpecial hs)
      rw [unescape_special hs, escape_special hs, escape_unescape hrest]
    · have hkept : c = '\\' → startsSpecial (d :: rest) = false := by
        intro hc
        simpa [startsSpecial, hc] using hpair
      have hrest : IsEscaped (d :: rest) := by
        refine IsEscaped.of_append [c] h ?_
        intro hlast
        exact hkept (by simpa using hlast)
      rw [unescape_cons hkept, escape_plain h.head, escape_unescape hrest]

/-- A text is the escape of one text at most, and of one exactly if it is escaped. -/
theorem existsUnique_escapeText_iff (latex : String) :
    (∃! text, escapeText false text = latex) ↔ IsEscaped latex.toList := by
  constructor
  · rintro ⟨text, rfl, -⟩
    rw [toList_escapeText]
    exact isEscaped_escape text.toList
  · intro h
    refine ⟨String.ofList (unescape latex.toList), String.toList_inj.1 ?_, ?_⟩
    · rw [toList_escapeText, String.toList_ofList, escape_unescape h]
    · intro text htext
      rw [← htext, toList_escapeText, unescape_escape, String.ofList_toList]

theorem toList_literalText (text : String) :
    (literalText text).toList =
      if text.length ≤ 1 ∨ text.toList.head?.any Char.isDigit then escape text.toList
      else "\\text\x7b".toList ++ (escape text.toList ++ ['\x7d']) := by
  unfold literalText
  split <;> simp

/-- A text that stands on its own does not look like upright text, once it is escaped. -/
theorem escape_ne_upright (h : text.length ≤ 1 ∨ text.head?.any Char.isDigit)
    (body : List Char) : escape text ≠ "\\text\x7b".toList ++ body := by
  intro heq
  match text, h with
  | [], _ => cases heq
  | [c], _ =>
    have hlength := congrArg List.length heq
    cases hs : isSpecial c <;> simp [escape, escapeChar, hs] at hlength
  | c :: d :: rest, .inr hdigit =>
    have hc : c.isDigit := by simpa using hdigit
    rw [escape_plain (isSpecial_of_isDigit hc)] at heq
    exact ne_slash_of_isDigit hc (List.cons.inj heq).1

theorem literalText_injective : Function.Injective literalText := by
  intro a b h
  have hlist := congrArg String.toList h
  rw [toList_literalText, toList_literalText] at hlist
  split at hlist <;> split at hlist
  case isTrue.isTrue => exact String.toList_inj.1 (escape_injective hlist)
  case isTrue.isFalse => exact absurd hlist (escape_ne_upright (by rwa [String.length_toList]) _)
  case isFalse.isTrue =>
    exact absurd hlist.symm (escape_ne_upright (by rwa [String.length_toList]) _)
  case isFalse.isFalse =>
    have hbody := List.append_cancel_right (List.append_cancel_left hlist)
    exact String.toList_inj.1 (escape_injective hbody)

theorem isNumeric_eq (text : String) : isNumeric text = text.toList.head?.any Char.isDigit := by
  unfold isNumeric
  split <;> simp_all

end Latex

namespace Renderer

open Latex

variable {r : Renderer}

theorem draft_literal (hlegacy : r.settings.legacyAccents = false) (text : String) :
    Steps.draft r (Steps.literal text) = ⟨[], .ok (literalText text)⟩ := by
  unfold Steps.literal literalText
  rw [isNumeric_eq]
  by_cases hinline : text.length ≤ 1 ∨ text.toList.head?.any Char.isDigit
  · have hupright : ¬ (decide (1 < text.length) && !text.toList.head?.any Char.isDigit) = true := by
      simp only [Bool.and_eq_true, decide_eq_true_eq, Bool.not_eq_true', not_and_or, not_lt]
      simpa using hinline
    rw [if_pos hinline, if_neg hupright]
    simp [Step.draft, Step.fault?, Step.notes, Step.text, hlegacy]
  · have hupright : (decide (1 < text.length) && !text.toList.head?.any Char.isDigit) = true := by
      simpa [not_or] using hinline
    rw [if_neg hinline, if_pos hupright]
    exact draft_upright hlegacy text

/-- Literals rendered without legacy accents lose nothing. -/
theorem render_literal_lossless (r : Renderer) (hlegacy : r.settings.legacyAccents = false)
    (hroom : 1 ≤ r.settings.maxDepth) :
    (∀ text, r.render (.literal text) = ⟨[], .ok (literalText text)⟩) ∧
      (∀ text, String.ofList (unescape (escapeText false text).toList) = text) ∧
      (∀ latex, (∃! text, escapeText false text = latex) ↔ IsEscaped latex.toList) ∧
      ∀ a b, (r.render (.literal a)).outcome = (r.render (.literal b)).outcome → a = b := by
  have hrender (text : String) : r.render (.literal text) = ⟨[], .ok (literalText text)⟩ := by
    rw [render_eq_draft, Steps.of, draft_enter hroom]
    exact draft_literal hlegacy text
  refine ⟨hrender, fun text => ?_, existsUnique_escapeText_iff, fun a b h => ?_⟩
  · rw [toList_escapeText, unescape_escape, String.ofList_toList]
  · rw [hrender, hrender] at h
    exact literalText_injective (Except.ok.inj h)

theorem render_literal_lossless_text :
    let r := Renderer.ofSettings {}
    r.render (.literal "\\text\x7b1\x7d") = ⟨[], .ok "\\text\x7b\\text\\\x7b1\\\x7d\x7d"⟩ ∧
      r.render (.literal "1") = ⟨[], .ok "1"⟩ :=
  have h := render_literal_lossless (.ofSettings {}) rfl (by decide)
  ⟨h.1 "\\text\x7b1\x7d", h.1 "1"⟩

end Renderer

end FormulaTex
