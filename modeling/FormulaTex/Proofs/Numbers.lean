import FormulaTex.Proofs.Places
import FormulaTex.Proofs.Tables
import FormulaTex.Proofs.Trees
import FormulaTex.Proofs.Unescaping
import FormulaTex.Proofs.Unused

/-!
# Numbers

A number in a document is a literal that is spelled like the number. The spelling has digits, a
point, an exponent and signs and nothing else, so that no escape and no accent changes it. Whether
it stands inline is told by its first character, and that is a digit unless it is a minus sign. So
the negative numbers are set upright like words, the negative zero among them.
-/

namespace FormulaTex

namespace Latex

def isFigure (c : Char) : Bool :=
  c.isDigit || ['.', 'e', '+', '-'].contains c

theorem isFigure_of_isDigit {c : Char} (h : c.isDigit = true) : isFigure c = true := by
  simp [isFigure, h]

theorem of_isFigure (p : Char → Prop) [DecidablePred p]
    (hdigit : ∀ c : Char, c.isDigit = true → p c)
    (hmark : ['.', 'e', '+', '-'].all (decide <| p ·)) {c : Char} (h : isFigure c = true) :
    p c := by
  rw [isFigure, Bool.or_eq_true] at h
  refine h.elim (hdigit c) fun hc => ?_
  exact of_decide_eq_true (List.all_eq_true.mp hmark c (List.contains_iff_mem.mp hc))

theorem isSpecial_of_isFigure {c : Char} (h : isFigure c = true) : isSpecial c = false :=
  of_isFigure (isSpecial · = false) (fun _ => isSpecial_of_isDigit) rfl h

theorem toNat_lt_of_isFigure {c : Char} (h : isFigure c = true) : c.toNat < 0x80 := by
  refine of_isFigure (·.toNat < 0x80) (fun d hd => ?_) rfl h
  have hle : d.val ≤ 57 := by
    simp only [Char.isDigit, Bool.and_eq_true, decide_eq_true_eq] at hd
    exact hd.2
  have hnat : d.val.toNat ≤ 57 := UInt32.le_iff_toNat_le.mp hle
  exact Nat.lt_of_le_of_lt hnat (by decide)

/-- Figures are written as they are, whatever the accents. -/
theorem escapeText_of_figures {text : String} (h : ∀ c ∈ text.toList, isFigure c = true)
    (legacyAccents : Bool) : escapeText legacyAccents text = text := by
  have hascii : isAscii text.toList = true :=
    List.all_eq_true.mpr fun c hc => decide_eq_true (toNat_lt_of_isFigure (h c hc))
  have hescape : escape text.toList = text.toList := by
    rw [escape, List.flatMap_congr (g := fun c => [c]) fun c hc => by
      simp [escapeChar, isSpecial_of_isFigure (h c hc)]]
    simp
  rw [escapeText_of_isAscii hascii, hescape, String.ofList_toList]

end Latex

open Latex

def IsUnsigned (text : List Char) : Prop :=
  ∃ c rest, text = c :: rest ∧ c.isDigit = true ∧ ∀ x ∈ rest, isFigure x = true

namespace IsUnsigned

variable {a b : List Char}

theorem of_digits (hne : a ≠ []) (h : ∀ c ∈ a, c.isDigit = true) : IsUnsigned a := by
  obtain ⟨c, rest, rfl⟩ := List.exists_cons_of_ne_nil hne
  obtain ⟨hc, hrest⟩ := List.forall_mem_cons.mp h
  exact ⟨c, rest, rfl, hc, fun x hx => isFigure_of_isDigit (hrest x hx)⟩

theorem append (ha : IsUnsigned a) (hb : ∀ x ∈ b, isFigure x = true) : IsUnsigned (a ++ b) := by
  obtain ⟨c, rest, rfl, hc, hrest⟩ := ha
  exact ⟨c, rest ++ b, rfl, hc, List.forall_mem_append.mpr ⟨hrest, hb⟩⟩

theorem take (hne : a ≠ []) (h : ∀ c ∈ a, c.isDigit = true) (n : Nat) :
    IsUnsigned (a.take (n + 1)) :=
  of_digits (by simpa using hne) fun c hc => h c (List.mem_of_mem_take hc)

theorem figures (h : IsUnsigned a) : ∀ c ∈ a, isFigure c = true := by
  obtain ⟨c, rest, rfl, hc, hrest⟩ := h
  exact List.forall_mem_cons.mpr ⟨isFigure_of_isDigit hc, hrest⟩

end IsUnsigned

theorem isDigit_of_mem_toString {n : Nat} {c : Char} (h : c ∈ (toString n).toList) :
    c.isDigit = true := by
  rw [Nat.toString_eq_repr, Nat.toList_repr] at h
  exact Nat.isDigit_of_mem_toDigits (by decide) (by decide) h

theorem isUnsigned_toString (n : Nat) : IsUnsigned (toString n).toList := by
  refine .of_digits ?_ fun c => isDigit_of_mem_toString
  rw [Nat.toString_eq_repr, Nat.toList_repr]
  exact Nat.toDigits_ne_nil

namespace DecimalLayout

theorem significant_ne_nil (d : Decimal) : significant d ≠ [] := by
  unfold significant
  dsimp only
  split_ifs with h
  · simp
  · simpa using h

theorem isDigit_of_mem_significant {d : Decimal} {c : Char} (h : c ∈ significant d) :
    c.isDigit = true := by
  unfold significant at h
  dsimp only at h
  split_ifs at h
  · rw [List.mem_singleton.mp h]
    rfl
  · have hkept := (List.dropWhile_sublist _).subset (List.mem_reverse.mp h)
    exact isDigit_of_mem_toString (List.mem_reverse.mp hkept)

theorem isDigit_of_mem_zeros {count : Nat} {c : Char} (h : c ∈ List.replicate count '0') :
    c.isDigit = true := by
  rw [List.eq_of_mem_replicate h]
  rfl

/-- A point with the digits after it, or something else where there are none. -/
theorem isFigure_of_mem_fraction {bare : String} {rest : List Char}
    (hbare : ∀ c ∈ bare.toList, isFigure c = true) (hrest : ∀ c ∈ rest, c.isDigit = true) :
    ∀ c ∈ (if rest.isEmpty then bare else "." ++ String.ofList rest).toList,
      isFigure c = true := by
  split_ifs
  · exact hbare
  · simp only [String.toList_append, String.toList_ofList, List.forall_mem_append]
    exact ⟨List.all_eq_true.mp rfl, fun c hc => isFigure_of_isDigit (hrest c hc)⟩

theorem isFigure_of_mem_padStart {count n : Nat} :
    ∀ c ∈ (padStart count (toString n)).toList, isFigure c = true := by
  simp only [padStart, String.toList_append, String.toList_ofList, List.forall_mem_append]
  exact ⟨fun c hc => isFigure_of_isDigit (isDigit_of_mem_zeros hc),
    fun c hc => isFigure_of_isDigit (isDigit_of_mem_toString hc)⟩

theorem isUnsigned_write {layout : DecimalLayout}
    (hfraction : ∀ c ∈ layout.fraction.toList, isFigure c = true)
    (hmark : ∀ c ∈ layout.exponentMark.toList, isFigure c = true) (d : Decimal) :
    IsUnsigned (layout.write d).toList := by
  have hdigits : ∀ c ∈ significant d, c.isDigit = true := fun c => isDigit_of_mem_significant
  unfold write
  dsimp only
  split
  · split
    · have hzero : IsUnsigned "0.".toList :=
        ⟨'0', ['.'], rfl, rfl, List.all_eq_true.mp rfl⟩
      simp only [String.toList_append, String.toList_ofList]
      exact (hzero.append fun c hc => isFigure_of_isDigit (isDigit_of_mem_zeros hc)).append
        fun c hc => isFigure_of_isDigit (hdigits c hc)
    · rw [String.toList_append, String.toList_ofList]
      have hpadded : ∀ count, ∀ c ∈ significant d ++ List.replicate count '0',
          c.isDigit = true := fun count =>
        List.forall_mem_append.mpr ⟨hdigits, fun c => isDigit_of_mem_zeros⟩
      refine (IsUnsigned.take (by simp [significant_ne_nil]) (hpadded _) _).append ?_
      exact isFigure_of_mem_fraction hfraction fun c hc => hpadded _ c (List.mem_of_mem_drop hc)
  · simp only [String.toList_append, String.toList_ofList]
    have hfirst := IsUnsigned.take (significant_ne_nil d) hdigits 0
    have hnone : ∀ c ∈ "".toList, isFigure c = true := nofun
    have hdrop : ∀ c ∈ (significant d).drop 1, c.isDigit = true :=
      fun c hc => hdigits c (List.mem_of_mem_drop hc)
    have hrest := isFigure_of_mem_fraction hnone hdrop
    refine (((hfirst.append hrest).append hmark).append ?_).append isFigure_of_mem_padStart
    split <;> exact List.all_eq_true.mp rfl

end DecimalLayout

/-- The spelling of a finite number but for its sign. -/
theorem Double.isUnsigned_toText (significand : Nat) (exponent : Int) :
    IsUnsigned (if significand = 0 then "0.0"
      else layout.write (shortest significand exponent)).toList := by
  split_ifs
  · exact ⟨'0', ['.', '0'], rfl, rfl, List.all_eq_true.mp rfl⟩
  · exact DecimalLayout.isUnsigned_write (List.all_eq_true.mp rfl) (List.all_eq_true.mp rfl) _

namespace Scalar

/-- An integer that can be written, or a finite number. -/
def isNumber : Scalar → Bool
  | int n => Number.isWritable n
  | float x => x.isFinite
  | _ => false

def isNegative : Scalar → Bool
  | int n => decide (n < 0)
  | float x => x.isNegative
  | _ => false

/-- What a number is set as. -/
def setting (s : Scalar) : String :=
  if s.isNegative then "\\text\x7b" ++ s.toText ++ "\x7d" else s.toText

variable {s : Scalar}

theorem exists_toText (hs : s.isNumber = true) :
    ∃ figures : String, IsUnsigned figures.toList ∧
      s.toText = (if s.isNegative then "-" else "") ++ figures := by
  cases s with
  | int n =>
    cases n with
    | ofNat m =>
      refine ⟨toString m, isUnsigned_toString m, ?_⟩
      have hpositive : (Scalar.int (.ofNat m)).isNegative = false :=
        decide_eq_false (Int.not_lt.mpr (Int.natCast_nonneg m))
      simp only [hpositive, Bool.false_eq_true, if_false, String.empty_append]
      rfl
    | negSucc m =>
      refine ⟨toString (m + 1), isUnsigned_toString (m + 1), ?_⟩
      have hnegative : (Scalar.int (.negSucc m)).isNegative = true :=
        decide_eq_true (Int.negSucc_lt_zero m)
      simp only [hnegative, if_true]
      rfl
  | float x =>
    cases x with
    | finite negative significand exponent =>
      exact ⟨_, Double.isUnsigned_toText significand exponent, rfl⟩
    | _ => cases hs
  | _ => cases hs

theorem escapeText_toText (hs : s.isNumber = true) (legacyAccents : Bool) :
    escapeText legacyAccents s.toText = s.toText := by
  obtain ⟨figures, hfigures, htext⟩ := exists_toText hs
  refine escapeText_of_figures ?_ legacyAccents
  rw [htext, String.toList_append, List.forall_mem_append]
  refine ⟨?_, hfigures.figures⟩
  split_ifs <;> exact List.all_eq_true.mp rfl

/-- A number counts as one for the walk unless it begins with a sign. -/
theorem isNumeric_toText (hs : s.isNumber = true) : isNumeric s.toText = !s.isNegative := by
  obtain ⟨figures, ⟨c, rest, hfigures, hc, -⟩, htext⟩ := exists_toText hs
  rw [isNumeric_eq, htext, String.toList_append, hfigures]
  cases s.isNegative <;> simp [hc]

theorem toText_ne_empty (hs : s.isNumber = true) : s.toText ≠ "" := by
  obtain ⟨figures, ⟨c, rest, hfigures, -, -⟩, htext⟩ := exists_toText hs
  intro hempty
  have hlist := congrArg String.toList (htext.symm.trans hempty)
  simp [hfigures] at hlist

theorem one_lt_length_toText (hs : s.isNumber = true) (hnegative : s.isNegative = true) :
    1 < s.toText.length := by
  obtain ⟨figures, ⟨c, rest, hfigures, -, -⟩, htext⟩ := exists_toText hs
  rw [htext, hnegative, ← String.length_toList, String.toList_append, hfigures]
  simp

end Scalar

namespace Steps

variable {r : Renderer} {s : Scalar}

theorem text_literal (hs : s.isNumber = true) : text r (literal s.toText) = s.setting := by
  have hescape := Scalar.escapeText_toText hs r.settings.legacyAccents
  unfold literal Scalar.setting
  rw [Scalar.isNumeric_toText hs, Bool.not_not]
  cases hnegative : s.isNegative with
  | true =>
    simp [Scalar.one_lt_length_toText hs hnegative, upright, text, Step.text, hescape,
      String.append_assoc]
  | false => simp [text, Step.text, hescape]

theorem text_of_number (hs : s.isNumber = true) (depth : Nat) :
    text r (of depth (.literal s.toText)) = s.setting := by
  rw [of, text_append, text_literal hs]
  simp [text, Step.text]

theorem notes_literal (content : String) : (draft r (literal content)).notes = [] := by
  unfold literal
  split <;> simp [upright, draft, Draft.append_def, Draft.append, Draft.empty, Step.draft,
    Step.notes, Step.fault?, Except.map]

end Steps

namespace Renderer

open Steps

variable {r : Renderer} {s : Scalar}

/-- From any state of a pass with room for it, a number is written as it is set. -/
theorem run_number (hs : s.isNumber = true) {p : Pass} (hp : p.depth + 1 ≤ r.settings.maxDepth) :
    (r.append (.literal s.toText)).run p = .ok ((), ⟨p.text ++ s.setting, p.notes, p.depth⟩) := by
  have hclear : Clear r.settings.maxDepth (Steps.of p.depth (.literal s.toText)) :=
    (clear_of (Nat.le_of_succ_le hp) _).mpr ⟨hp, rfl⟩
  have hnotes : (draft r (Steps.of p.depth (.literal s.toText))).notes = [] := by
    have henter : draft r [.enter (p.depth + 1)] = .empty := by
      simp [Step.draft, Step.fault?, Nat.not_lt.mpr hp, Step.notes, Step.text, Draft.empty]
    rw [Steps.of, draft_append, henter, Draft.empty_append, notes_literal]
  rw [run_of_clear hclear, hnotes, text_of_number hs, List.append_nil]

theorem render_number (hs : s.isNumber = true) (hr : 1 ≤ r.settings.maxDepth) :
    r.render (.literal s.toText) = ⟨[], .ok s.setting⟩ := by
  rw [render, Walk.draft, run_number hs (p := .start) hr]
  simp [Pass.start]

end Renderer

namespace Layout

open Steps

theorem readScalar_of_isNumber {s : Scalar} (hs : s.isNumber = true) :
    readScalar s = .ok (.literal s.toText) := by
  cases s with
  | int n =>
    have hn : Number.isWritable n = true := hs
    simp only [readScalar, hn, if_true]
    rfl
  | float x => rfl
  | _ => cases hs

theorem readIn_of_isNumber {s : Scalar} (hs : s.isNumber = true) (scope : Scope) :
    readIn scope (.scalar s) = .ok (.literal s.toText) := by
  rw [readIn]
  exact readScalar_of_isNumber hs

namespace Place

/-- The tree at a place is walked over where that of a place above it is, unless it is left out as
an index. -/
theorem infix_of_above {p q : Place} {node leaf : Value} (habove : p.Above q)
    (hnode : p.read = .ok node) (hoperable : node.isOperable = true)
    (hleaf : q.read = .ok leaf) (hindex : Renderer.isNoIndex leaf = false) (depth : Nat) :
    Renderer.isNoIndex node = false ∧
      ∃ further, Steps.of further leaf <:+: Steps.of depth node := by
  induction habove using Relation.ReflTransGen.head_induction_on generalizing node depth with
  | refl =>
    cases hnode.symm.trans hleaf
    exact ⟨hindex, depth, List.infix_refl _⟩
  | head hpart _ ih =>
    have hlay := lay_parts (isNode_of_mem_parts hpart) hnode
    obtain ⟨child, hchild, hread⟩ := hlay.exists_node hpart
    have hbelow := ((Value.isOperable_iff node).mp hoperable).2 child hchild
    obtain ⟨hthere, further, hinfix⟩ := ih hread hbelow (depth + 1)
    exact ⟨Value.isNoIndex_of_mem_children hchild, further,
      hinfix.trans (infix_child hoperable hthere hchild)⟩

end Place

/-- A number is set as it is spelled, and upright if it has a minus sign, wherever it stands. -/
theorem read_number (r : Renderer) {s : Scalar} (hs : s.isNumber = true) :
    read (.scalar s) = .ok (.literal s.toText) ∧
      (1 ≤ r.settings.maxDepth → r.render (.literal s.toText) = ⟨[], .ok s.setting⟩) ∧
      ∀ {document tree : Value} {latex : String} {p : Place}, read document = .ok tree →
        (r.render tree).outcome = .ok latex → (Place.root document).Above p → p.value = .scalar s →
          ∃ depth before after, Steps.of 0 tree =
              before ++ (Steps.of depth (.literal s.toText) ++ after) ∧
            latex = text r before ++ (s.setting ++ text r after) := by
  refine ⟨readIn_of_isNumber hs [], Renderer.render_number hs, ?_⟩
  intro document tree latex p hread houtcome habove hp
  have hnumber : p.read = .ok (.literal s.toText) := by
    rw [Place.read, hp]
    exact readIn_of_isNumber hs p.scope
  have hindex : Renderer.isNoIndex (.literal s.toText) = false := by
    simpa [Renderer.isNoIndex] using Scalar.toText_ne_empty hs
  obtain ⟨-, depth, before, after, hsteps⟩ :=
    Place.infix_of_above habove hread (Renderer.isOperable_of_ok houtcome) hnumber hindex 0
  refine ⟨depth, before, after, by rw [← hsteps, List.append_assoc], ?_⟩
  rw [Renderer.render_eq_draft] at houtcome
  rw [eq_text_of_outcome houtcome, ← hsteps, text_append, text_append, String.append_assoc,
    text_of_number hs]

/-- A large number in a script, spelled with an exponent. -/
theorem read_number_script :
    let s := Scalar.float (.finite false 4503599627370496 18)
    let document := Value.map none
      [(.str "type", .str "subsup"), (.str "e", .str "x"), (.str "sup", .scalar s)]
    let tree := Value.subSup (.literal "x") .null (.literal s.toText)
    let r := Renderer.ofSettings { legacyAccents := true }
    s.isNumber = true ∧ s.setting = "1.1805916207174113e+21" ∧
      read (.scalar s) = .ok (.literal s.toText) ∧
      r.render (.literal s.toText) = ⟨[], .ok s.setting⟩ ∧ read document = .ok tree ∧
      ∃ depth before after, Steps.of 0 tree =
          before ++ (Steps.of depth (.literal s.toText) ++ after) ∧
        text r (Steps.of 0 tree) = text r before ++ (s.setting ++ text r after) := by
  intro s document tree r
  have hs : s.isNumber = true := rfl
  have hmain := read_number r hs
  have hread : read document = .ok tree := rfl
  have hclear : Clear r.settings.maxDepth (Steps.of 0 tree) :=
    (clear_of (Nat.zero_le _) tree).mpr ⟨by decide, rfl⟩
  have hpart : (Place.root document).Above ⟨[], .scalar s⟩ :=
    .single (List.mem_cons_of_mem _ List.mem_cons_self)
  have hsetting : s.setting = "1.1805916207174113e+21" := by
    decide +kernel
  exact ⟨hs, hsetting, hmain.1, hmain.2.1 (by decide), hread,
    hmain.2.2 hread (Renderer.outcome_of_clear hclear) hpart rfl⟩

/-- A number below zero is set upright. -/
theorem read_number_negative :
    (Scalar.int (-1)).isNumber = true ∧ (Scalar.int (-1)).toText = "-1" ∧
      read (.scalar (.int (-1))) = .ok (.literal "-1") ∧
      ((Renderer.ofSettings {}).render (.literal "-1")).outcome = .ok "\\text\x7b-1\x7d" := by
  have hwritable : ∀ limit, limit ≠ 0 → decide ((-1 : Int).natAbs < Nat.pow 10 limit) = true :=
    fun limit hlimit => decide_eq_true (Nat.one_lt_pow hlimit (by decide))
  have hnumber : (Scalar.int (-1)).isNumber = true := hwritable Number.digitLimit (by decide)
  exact ⟨hnumber, rfl, readIn_of_isNumber hnumber [], rfl⟩

end Layout

end FormulaTex
