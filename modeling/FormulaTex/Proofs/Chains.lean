import FormulaTex.Proofs.Causes

/-!
# Chains of failures

A report follows the links from its first failure, each to the cause or else to the context, until
there is none or it comes to a failure that it has met. As there are finitely many failures, that
happens, whatever cycles the links have, and more steps than there are failures change nothing. Each
failure on the way has one line if its text is not blank, and none otherwise.
-/

namespace FormulaTex

open Text

namespace Text

variable {text : List Char}

theorem exists_blanks_stripEnd (text : List Char) :
    ∃ blanks, text = stripEnd text ++ blanks ∧ ∀ b ∈ blanks, isBlank b = true := by
  refine ⟨(text.reverse.takeWhile isBlank).reverse, ?_, ?_⟩
  · rw [stripEnd, ← List.reverse_append, List.takeWhile_append_dropWhile, List.reverse_reverse]
  · intro b hb
    exact List.mem_takeWhile_imp (List.mem_reverse.mp hb)

/-- What is left of a text without the blanks at its end ends with a character that is none. -/
theorem getLast?_stripEnd {c : Char} (h : (stripEnd text).getLast? = some c) :
    isBlank c = false := by
  have hhead := List.head?_dropWhile_not isBlank text.reverse
  rw [stripEnd, List.getLast?_reverse] at h
  rwa [h] at hhead

end Text

namespace Failure

variable {failure : Failure}

/-- The first line of a text that is not blank begins with a character that is not blank. -/
theorem exists_firstLine (h : allBlank failure.text = false) :
    ∃ c rest, firstLine (strip failure.text.toList) = c :: rest ∧ isBlank c = false := by
  cases hstrip : strip failure.text.toList with
  | nil =>
    rw [allBlank_eq_true.mpr (strip_eq_nil.mp hstrip)] at h
    cases h
  | cons c rest =>
    have hc := head_strip hstrip
    have hend : isLineEnd c = false := by
      rw [← Bool.not_eq_true]
      intro hend
      rw [isBlank_of_isLineEnd hend] at hc
      cases hc
    exact ⟨c, rest.takeWhile fun c => !isLineEnd c, List.takeWhile_cons_of_pos (by simp [hend]), hc⟩

theorem toList_line (h : allBlank failure.text = false) :
    failure.line.toList = stripEnd (firstLine (strip failure.text.toList)) := by
  obtain ⟨c, rest, hfirst, hc⟩ := exists_firstLine h
  rw [line, String.toList_ofList, strip, stripStart_eq_self ⟨c, by rw [hfirst]; rfl, hc⟩]

/-- The line of a failure is the first line of its text, but for blanks at the end of that line. -/
theorem exists_blanks_line (h : allBlank failure.text = false) :
    ∃ blanks, firstLine (strip failure.text.toList) = failure.line.toList ++ blanks ∧
      ∀ b ∈ blanks, isBlank b = true := by
  rw [toList_line h]
  exact exists_blanks_stripEnd _

theorem isLine_line (h : allBlank failure.text = false) : IsLine failure.line.toList := by
  obtain ⟨c, rest, hfirst, hc⟩ := exists_firstLine h
  obtain ⟨blanks, hline, hblanks⟩ := exists_blanks_line h
  rw [hfirst] at hline
  cases htext : failure.line.toList with
  | nil =>
    rw [htext, List.nil_append] at hline
    rw [hblanks c (hline ▸ List.mem_cons_self)] at hc
    cases hc
  | cons d tail =>
    rw [htext, List.cons_append] at hline
    obtain ⟨rfl, -⟩ := List.cons.inj hline
    obtain ⟨last, hlast⟩ : ∃ last, (c :: tail).getLast? = some last :=
      ⟨_, List.getLast?_eq_some_getLast (List.cons_ne_nil c tail)⟩
    refine ⟨⟨c, rfl, hc⟩, ⟨_, hlast, ?_⟩, ?_⟩
    · rw [← htext, toList_line h] at hlast
      exact getLast?_stripEnd hlast
    · intro e he
      have hmem : e ∈ firstLine (strip failure.text.toList) := by
        rw [hfirst, hline]
        exact List.mem_append_left blanks he
      simpa using List.mem_takeWhile_imp hmem

end Failure

namespace Failures

def present? (failures : Failures) (place : Nat) : Option Nat :=
  if place < failures.length then some place else none

/-- Where so many links lead from the first failure, each of them from a failure to the one behind
it. -/
def placeAfter (failures : Failures) : Nat → Option Nat
  | 0 => failures.present? 0
  | links + 1 => ((failures.placeAfter links).bind failures.next?).bind failures.present?

variable {failures : Failures} {path path' : List Nat} {n place : Nat}

theorem present?_of_lt (h : place < failures.length) : failures.present? place = some place :=
  if_pos h

theorem present?_eq_some {i : Nat} (h : failures.present? i = some place) :
    i = place ∧ place < failures.length := by
  unfold present? at h
  split_ifs at h with hlt
  cases h
  exact ⟨rfl, hlt⟩

theorem Leads.head?_eq_zero (h : failures.Leads [] 0 path) (hlt : 0 < failures.length) :
    path.head? = some 0 := by
  rw [h.head?, if_neg]
  rintro (hmem | hle)
  · cases hmem
  · omega

theorem Leads.getElem? (h : failures.Leads [] 0 path) (hn : n < path.length) :
    path[n]? = failures.placeAfter n := by
  induction n with
  | zero =>
    have hlt := (Nat.zero_le _).trans_lt (h.lt_length _ (List.getElem_mem hn))
    rw [← List.head?_eq_getElem?, h.head?_eq_zero hlt, placeAfter, present?_of_lt hlt]
  | succ n ih =>
    have hlink := List.isChain_iff_getElem.mp h.linked n hn
    have hplace := ih (by omega)
    rw [List.getElem?_eq_getElem (by omega)] at hplace
    rw [placeAfter, ← hplace, Option.bind_some, hlink, Option.bind_some,
      present?_of_lt (h.lt_length _ (List.getElem_mem hn)), List.getElem?_eq_getElem hn]

/-- Where the way of a report ends, one more link leads back to it, if there is one. -/
theorem Leads.mem_of_placeAfter (h : failures.Leads [] 0 path)
    (hplace : failures.placeAfter path.length = some place) : place ∈ path := by
  cases hlength : path.length with
  | zero =>
    rw [hlength] at hplace
    obtain ⟨rfl, hlt⟩ := present?_eq_some hplace
    have hhead := h.head?_eq_zero hlt
    rw [List.length_eq_zero_iff.mp hlength] at hhead
    cases hhead
  | succ n =>
    have hlast := h.getElem? (n := n) (by omega)
    rw [List.getElem?_eq_getElem (by omega)] at hlast
    rw [hlength, placeAfter, ← hlast, Option.bind_some] at hplace
    obtain ⟨i, hnext, hpresent⟩ := Option.bind_eq_some_iff.mp hplace
    obtain ⟨rfl, hlt⟩ := present?_eq_some hpresent
    rcases h.closed _ (List.getElem_mem _) i hnext hlt with hmem | hmem
    · exact hmem
    · cases hmem

/-- Of two such ways, none goes on where the other one ends. -/
theorem Leads.length_le (h : failures.Leads [] 0 path) (h' : failures.Leads [] 0 path') :
    path'.length ≤ path.length := by
  by_contra hlt
  rw [not_le] at hlt
  have hplace := h'.getElem? hlt
  rw [List.getElem?_eq_getElem hlt] at hplace
  obtain ⟨i, hi, hmem⟩ := List.getElem_of_mem (h.mem_of_placeAfter hplace.symm)
  have hfirst := (h.getElem? hi).trans (h'.getElem? (hi.trans hlt)).symm
  rw [List.getElem?_eq_getElem hi, List.getElem?_eq_getElem (hi.trans hlt), hmem] at hfirst
  have hsame := (h'.nodup.getElem_inj_iff).mp (Option.some.inj hfirst)
  omega

theorem Leads.unique (h : failures.Leads [] 0 path) (h' : failures.Leads [] 0 path') :
    path = path' := by
  have hlength : path.length = path'.length := le_antisymm (h'.length_le h) (h.length_le h')
  apply List.ext_getElem?
  intro n
  by_cases hn : n < path.length
  · rw [h.getElem? hn, h'.getElem? (hlength ▸ hn)]
  · rw [List.getElem?_eq_none (by omega), List.getElem?_eq_none (by omega)]

theorem pathFrom_eq_path {steps : Nat} (h : failures.length ≤ steps) :
    failures.pathFrom steps [] 0 = failures.path :=
  (leads_pathFrom steps List.nodup_nil nofun (by simpa using h)).unique failures.leads_path

theorem map_some_chain (failures : Failures) :
    failures.chain.map some = failures.path.map fun place => failures[place]? := by
  have hall := failures.leads_path.lt_length
  rw [chain]
  generalize failures.path = path at hall ⊢
  induction path with
  | nil => rfl
  | cons place rest ih =>
    rw [List.forall_mem_cons] at hall
    rw [List.filterMap_cons, List.getElem?_eq_getElem hall.1, List.map_cons, ih hall.2,
      List.map_cons, List.getElem?_eq_getElem hall.1]

theorem hint_eq_none : failures.hint = none ↔ ∀ failure ∈ failures.chain,
    allBlank failure.text = true := by
  rw [hint, List.getLast?_eq_none_iff, messages_eq, List.map_eq_nil_iff, List.filter_eq_nil_iff]
  simp

/-- The report of any failures ends. It meets the failures that the links lead to, in this order,
up to the first one that comes again, and each of them once. It has one line for every failure met
whose text is not blank: the first line of the text, without a blank around it. The hint is the last
line, and there is none exactly if all texts are blank. -/
theorem messages_of_links (failures : Failures) :
    (∀ steps, failures.length ≤ steps → failures.pathFrom steps [] 0 = failures.path) ∧
    failures.path.Nodup ∧
    (∀ n < failures.path.length, failures.path[n]? = failures.placeAfter n) ∧
    (∀ place, failures.placeAfter failures.path.length = some place → place ∈ failures.path) ∧
    failures.chain.map some = (failures.path.map fun place => failures[place]?) ∧
    failures.messages =
      (failures.chain.filter fun failure => !allBlank failure.text).map Failure.line ∧
    (∀ failure ∈ failures.chain, allBlank failure.text = false →
      Failure.IsLine failure.line.toList ∧
      ∃ blanks, firstLine (strip failure.text.toList) = failure.line.toList ++ blanks ∧
        ∀ b ∈ blanks, isBlank b = true) ∧
    failures.hint = failures.messages.getLast? ∧
    (failures.hint = none ↔ ∀ failure ∈ failures.chain, allBlank failure.text = true) := by
  have hleads := failures.leads_path
  refine ⟨fun steps => pathFrom_eq_path, hleads.nodup, fun n => hleads.getElem?,
    fun place => hleads.mem_of_placeAfter, map_some_chain failures, messages_eq failures, ?_, rfl,
    hint_eq_none⟩
  intro failure _ hblank
  exact ⟨Failure.isLine_line hblank, Failure.exists_blanks_line hblank⟩

/-- The links lead back to the first failure. The context beside a cause is never met, and a blank
text has no line. -/
theorem messages_of_links_cycle :
    let failures : Failures := [
      ⟨.other "ValueError", [.str "outer"], none, some 2⟩,
      ⟨.other "OSError", [.str "never met"], some 1, none⟩,
      ⟨.other "RuntimeError", [.str " \n"], some 3, some 1⟩,
      ⟨.other "OSError", [.str "\x0b root \u2028 more"], some 0, some 3⟩]
    failures.length ≤ 9 ∧ failures.pathFrom 9 [] 0 = [0, 2, 3] ∧
      failures.messages = ["outer", "root"] ∧ failures.hint = some "root" := by
  intro failures
  obtain ⟨hends, -, -, -, -, hmessages, -, hhint, -⟩ := messages_of_links failures
  have hlines : failures.messages = ["outer", "root"] := hmessages.trans (by decide +kernel)
  exact ⟨by decide, (hends 9 (by decide)).trans (by decide +kernel), hlines,
    by rw [hhint, hlines]; rfl⟩

end Failures

end FormulaTex
