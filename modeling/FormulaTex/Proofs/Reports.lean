import FormulaTex.Failure.Reports
import FormulaTex.Proofs.Numbers
import FormulaTex.Proofs.Offsets
import Mathlib.Data.List.Nodup
import Mathlib.Data.List.Perm.Subperm

/-!
# What a report says

A report goes from a failure to its cause, or to its context where there is no cause, and a context
counts even where it was set aside on purpose. It meets no failure twice, and it goes on as long as
there is one that it has not met. So a JSON document in which a value is missing has a report with
three lines, the last of which is the bare offset, while every other malformed document has two.
-/

namespace FormulaTex

open Text

namespace Failures

/-- The failure that a report names behind the one at a place. -/
def next? (failures : Failures) (place : Nat) : Option Nat :=
  failures[place]?.bind Failure.next?

/-- The way of a report from a place: from each failure to the one behind it, none twice, and none
of those that have been met before. -/
structure Leads (failures : Failures) (visited : List Nat) (place : Nat) (path : List Nat) :
    Prop where
  head? : path.head? = if place ∈ visited ∨ failures.length ≤ place then none else some place
  lt_length : ∀ i ∈ path, i < failures.length
  nodup : path.Nodup
  fresh : ∀ i ∈ path, i ∉ visited
  linked : path.IsChain fun i j => failures.next? i = some j
  /-- Where the way ends, there is no failure left to go on to. -/
  closed : ∀ i ∈ path, ∀ j, failures.next? i = some j → j < failures.length →
    j ∈ path ∨ j ∈ visited

variable {failures : Failures} {visited : List Nat} {place : Nat} {path : List Nat}

/-- Among so many different places there is every one. -/
theorem mem_of_length_le {n : Nat} (hnodup : visited.Nodup) (hlt : ∀ i ∈ visited, i < n)
    (hlength : n ≤ visited.length) (hplace : place < n) : place ∈ visited := by
  by_contra hmem
  have hsub : place :: visited ⊆ List.range n := by
    intro i hi
    rcases List.mem_cons.mp hi with rfl | hi
    · exact List.mem_range.mpr hplace
    · exact List.mem_range.mpr (hlt i hi)
  have hle := (List.subperm_of_subset (List.nodup_cons.mpr ⟨hmem, hnodup⟩) hsub).length_le
  rw [List.length_cons, List.length_range] at hle
  omega

theorem leads_nil (h : place ∈ visited ∨ failures.length ≤ place) :
    failures.Leads visited place [] where
  head? := by rw [if_pos h]; rfl
  lt_length := nofun
  nodup := List.nodup_nil
  fresh := nofun
  linked := List.isChain_nil
  closed := nofun

theorem leads_singleton (hplace : place < failures.length) (hfresh : place ∉ visited)
    (hnext : failures.next? place = none) : failures.Leads visited place [place] where
  head? := by
    rw [if_neg (by simp [hfresh, hplace])]
    rfl
  lt_length := List.forall_mem_singleton.mpr hplace
  nodup := List.nodup_singleton place
  fresh := List.forall_mem_singleton.mpr hfresh
  linked := List.isChain_singleton place
  closed := by
    simp [hnext]

theorem Leads.cons {next : Nat} (h : failures.Leads (place :: visited) next path)
    (hplace : place < failures.length) (hfresh : place ∉ visited)
    (hnext : failures.next? place = some next) :
    failures.Leads visited place (place :: path) where
  head? := by
    rw [if_neg (by simp [hfresh, hplace])]
    rfl
  lt_length := List.forall_mem_cons.mpr ⟨hplace, h.lt_length⟩
  nodup := List.nodup_cons.mpr ⟨fun hmem => h.fresh place hmem List.mem_cons_self, h.nodup⟩
  fresh := by
    refine List.forall_mem_cons.mpr ⟨hfresh, ?_⟩
    intro i hi hmem
    exact h.fresh i hi (List.mem_cons_of_mem _ hmem)
  linked := by
    refine List.isChain_cons.mpr ⟨?_, h.linked⟩
    intro i hi
    rw [h.head?] at hi
    split_ifs at hi
    · cases hi
    · cases hi
      exact hnext
  closed := by
    refine List.forall_mem_cons.mpr ⟨?_, ?_⟩
    · intro j hj hlt
      obtain rfl : next = j := Option.some.inj (hnext.symm.trans hj)
      by_cases hvisited : next ∈ place :: visited
      · rcases List.mem_cons.mp hvisited with rfl | hvisited
        · exact .inl List.mem_cons_self
        · exact .inr hvisited
      · have hhead := h.head?
        rw [if_neg (by simp [hvisited, hlt])] at hhead
        exact .inl (List.mem_cons_of_mem _ (List.mem_of_head? hhead))
    · intro i hi j hj hlt
      rcases h.closed i hi j hj hlt with hpath | hvisited
      · exact .inl (List.mem_cons_of_mem _ hpath)
      · rcases List.mem_cons.mp hvisited with rfl | hvisited
        · exact .inl List.mem_cons_self
        · exact .inr hvisited

/-- With as many steps as there are failures left, the way is not cut short. -/
theorem leads_pathFrom (steps : Nat) (hnodup : visited.Nodup)
    (hlt : ∀ i ∈ visited, i < failures.length)
    (hsteps : failures.length ≤ steps + visited.length) :
    failures.Leads visited place (failures.pathFrom steps visited place) := by
  induction steps generalizing visited place with
  | zero =>
    apply leads_nil
    by_cases hplace : place < failures.length
    · exact .inl (mem_of_length_le hnodup hlt (by omega) hplace)
    · exact .inr (by omega)
  | succ steps ih =>
    unfold pathFrom
    split
    · next hvisited => exact leads_nil (.inl (List.contains_iff_mem.mp hvisited))
    · next hvisited =>
      have hfresh : place ∉ visited := fun hmem => hvisited (List.contains_iff_mem.mpr hmem)
      split
      · next hnone => exact leads_nil (.inr (List.getElem?_eq_none_iff.mp hnone))
      · next failure hfailure =>
        have hplace : place < failures.length := (List.getElem?_eq_some_iff.mp hfailure).1
        have hnext : failures.next? place = failure.next? := by
          rw [next?, hfailure]
          rfl
        split
        · next hnone => exact leads_singleton hplace hfresh (hnext.trans hnone)
        · next next hsome =>
          refine (ih ?_ ?_ ?_).cons hplace hfresh (hnext.trans hsome)
          · exact List.nodup_cons.mpr ⟨hfresh, hnodup⟩
          · exact List.forall_mem_cons.mpr ⟨hplace, hlt⟩
          · rw [List.length_cons]
            omega

theorem leads_path (failures : Failures) : failures.Leads [] 0 failures.path :=
  leads_pathFrom failures.length List.nodup_nil nofun (by simp)

end Failures

namespace Failure

structure IsLine (text : List Char) : Prop where
  head : ∃ c, text.head? = some c ∧ isBlank c = false
  last : ∃ c, text.getLast? = some c ∧ isBlank c = false
  plain : ∀ c ∈ text, isLineEnd c = false

variable {a b text : List Char}

theorem plain_of_all (h : (text.all fun c => !isLineEnd c) = true) :
    ∀ c ∈ text, isLineEnd c = false := by
  intro c hc
  exact Bool.not_eq_true' _ |>.mp (List.all_eq_true.mp h c hc)

theorem IsLine.append (ha : IsLine a) (hb : IsLine b) {middle : List Char}
    (hmiddle : ∀ c ∈ middle, isLineEnd c = false) : IsLine (a ++ (middle ++ b)) where
  head := by
    obtain ⟨c, hc, hblank⟩ := ha.head
    exact ⟨c, by rw [List.head?_append, hc]; rfl, hblank⟩
  last := by
    obtain ⟨c, hc, hblank⟩ := hb.last
    exact ⟨c, by rw [List.getLast?_append, List.getLast?_append, hc]; rfl, hblank⟩
  plain := by
    intro c hc
    rcases List.mem_append.mp hc with hc | hc
    · exact ha.plain c hc
    · rcases List.mem_append.mp hc with hc | hc
      · exact hmiddle c hc
      · exact hb.plain c hc

theorem isLine_of_visible (hne : text ≠ []) (h : ∀ c ∈ text, isBlank c = false) : IsLine text where
  head := ⟨text.head hne, List.head?_eq_some_head hne, h _ (List.head_mem hne)⟩
  last := ⟨text.getLast hne, List.getLast?_eq_some_getLast hne, h _ (List.getLast_mem hne)⟩
  plain := by
    intro c hc
    cases hend : isLineEnd c with
    | false => rfl
    | true =>
      have hblank := isBlank_of_isLineEnd hend
      rw [h c hc] at hblank
      cases hblank

theorem stripStart_eq_self (h : ∃ c, text.head? = some c ∧ isBlank c = false) :
    stripStart text = text := by
  obtain ⟨c, hc, hblank⟩ := h
  obtain ⟨rest, rfl⟩ := List.head?_eq_some_iff.mp hc
  exact List.dropWhile_cons_of_neg (by simp [hblank])

theorem IsLine.strip (h : IsLine text) : strip text = text := by
  have hend : stripStart text.reverse = text.reverse := by
    apply stripStart_eq_self
    rw [List.head?_reverse]
    exact h.last
  rw [Text.strip, stripStart_eq_self h.head, stripEnd]
  exact (congrArg List.reverse hend).trans text.reverse_reverse

theorem firstLine?_of_isLine {message : String} (h : IsLine message.toList) :
    firstLine? message = some message := by
  have hfirst : firstLine message.toList = message.toList := by
    apply List.takeWhile_eq_self_iff.mpr
    intro c hc
    rw [h.plain c hc]
    rfl
  have hne : message.toList.isEmpty = false := by
    obtain ⟨c, hc, -⟩ := h.head
    obtain ⟨rest, hrest⟩ := List.head?_eq_some_iff.mp hc
    rw [hrest]
    rfl
  simp only [firstLine?, h.strip, hfirst, hne, String.ofList_toList, Bool.false_eq_true, if_false]

theorem isBlank_of_isDigit {c : Char} (h : c.isDigit = true) : isBlank c = false := by
  simp only [Char.isDigit, Bool.and_eq_true, decide_eq_true_eq] at h
  have hge : 0x30 ≤ c.toNat := UInt32.le_iff_toNat_le.mp h.1
  have hle : c.toNat ≤ 0x39 := UInt32.le_iff_toNat_le.mp h.2
  simp only [isBlank, Bool.or_eq_false_iff, Bool.and_eq_false_iff, decide_eq_false_iff_not,
    beq_eq_false_iff_ne]
  omega

theorem isLine_toString (n : Nat) : IsLine (toString n).toList := by
  apply isLine_of_visible
  · rw [Nat.toString_eq_repr, Nat.toList_repr]
    exact Nat.toDigits_ne_nil
  · intro c hc
    exact isBlank_of_isDigit (isDigit_of_mem_toString hc)

end Failure

namespace Json

open Failure (IsLine isLine_toString plain_of_all)

theorem Problem.isLine (problem : Problem) : IsLine problem.message.toList := by
  cases problem <;> exact ⟨⟨_, rfl, rfl⟩, ⟨_, rfl, rfl⟩, plain_of_all rfl⟩

theorem isLine_message (problem : Problem) (position : Position) :
    IsLine (Fault.malformed problem position).message.toList := by
  have hclosing : IsLine ")".toList := ⟨⟨_, rfl, rfl⟩, ⟨_, rfl, rfl⟩, plain_of_all rfl⟩
  have hmiddle : ∀ c ∈ ": line ".toList ++ ((toString position.line).toList ++
      (" column ".toList ++ ((toString position.column).toList ++
        (" (char ".toList ++ (toString position.offset).toList)))), isLineEnd c = false := by
    simp only [List.forall_mem_append]
    exact ⟨plain_of_all rfl, (isLine_toString _).plain, plain_of_all rfl,
      (isLine_toString _).plain, plain_of_all rfl, (isLine_toString _).plain⟩
  have hline := problem.isLine.append hclosing hmiddle
  simpa [Fault.message, Position.phrase] using hline

end Json

namespace Document

open Json
open Failure (firstLine? firstLine?_of_isLine isLine_toString)

theorem firstLine?_formatMessage :
    firstLine? (Fault.formatMessage "json") = some "Unable to parse JSON tree document" := by
  decide +kernel

/-- The last lines of a report on a malformed document. Where a value is missing, the offset comes
behind the message. -/
def rootLines (problem : Problem) (position : Position) : List String :=
  if problem = .noValue then [toString position.offset] else []

theorem texts_notJson (words : Yaml.Words) (name : String) (problem : Problem)
    (position : Position) :
    ((Fault.notJson name (.malformed problem position)).failures words).chain.map Failure.text =
      Fault.formatMessage name :: (Json.Fault.malformed problem position).message ::
        rootLines problem position := by
  cases problem <;> rfl

theorem messages_notJson (words : Yaml.Words) (problem : Problem) (position : Position) :
    ((Fault.notJson "json" (.malformed problem position)).failures words).messages =
      "Unable to parse JSON tree document" :: (problem.message ++ ": " ++ position.phrase) ::
        rootLines problem position := by
  have hmessage := firstLine?_of_isLine (isLine_message problem position)
  have hroot : (rootLines problem position).filterMap firstLine? = rootLines problem position := by
    unfold rootLines
    split_ifs
    · rw [List.filterMap_cons_some (firstLine?_of_isLine (isLine_toString position.offset)),
        List.filterMap_nil]
    · rfl
  have hlines : ((Fault.notJson "json" (.malformed problem position)).failures words).messages =
      (((Fault.notJson "json" (.malformed problem position)).failures words).chain.map
        Failure.text).filterMap firstLine? := by
    rw [List.filterMap_map]
    rfl
  rw [hlines, texts_notJson, List.filterMap_cons_some firstLine?_formatMessage,
    List.filterMap_cons_some hmessage, hroot]
  rfl

/-- A report says of a malformed document where it breaks, and where a value is missing, it says
the offset once more. In every report, the lines are those of the failures on its way. -/
theorem read_malformed (words : Yaml.Words) (text : String) (problem : Problem)
    (position : Position) (h : Json.read text.toList = .error (.malformed problem position)) :
    (∃ offset ≤ text.toList.length, position = .ofOffset text.toList offset) ∧
    (∃ fault, Document.read "json" text = .error fault ∧
      (fault.failures words).head?.map Failure.kind = some .invalidNode ∧
      (fault.failures words).messages =
        "Unable to parse JSON tree document" :: (problem.message ++ ": " ++ position.phrase) ::
          rootLines problem position ∧
      (fault.failures words).hint = some (if problem = .noValue then toString position.offset
        else problem.message ++ ": " ++ position.phrase)) ∧
    ∀ failures : Failures, failures.Leads [] 0 failures.path ∧
      failures.messages = failures.path.filterMap fun place =>
        failures[place]?.bind fun failure => firstLine? failure.text := by
  refine ⟨exists_offset_of_read h, ⟨.notJson "json" (.malformed problem position), ?_, rfl,
    messages_notJson words problem position, ?_⟩, ?_⟩
  · simp [Document.read, readData, Format.ofName, h, Except.mapError, Bind.bind, Except.bind]
  · rw [Failures.hint, messages_notJson]
    unfold rootLines
    split_ifs <;> rfl
  · intro failures
    exact ⟨failures.leads_path, List.filterMap_filterMap⟩

theorem read_malformed_array :
    (∃ fault, Document.read "json" "[1 2]" = .error fault ∧
      (fault.failures .untold).messages = ["Unable to parse JSON tree document",
        "Expecting ',' delimiter: line 1 column 4 (char 3)"]) ∧
    ∃ fault, Document.read "json" "[1,\n]" = .error fault ∧
      (fault.failures .untold).messages = ["Unable to parse JSON tree document",
        "Expecting value: line 2 column 1 (char 4)", "4"] := by
  have hcomma : Json.read "[1 2]".toList = .error (.malformed .noComma ⟨1, 4, 3⟩) := rfl
  have hvalue : Json.read "[1,\n]".toList = .error (.malformed .noValue ⟨2, 1, 4⟩) := rfl
  obtain ⟨-, ⟨comma, hread, -, hmessages, -⟩, -⟩ := read_malformed .untold _ _ _ hcomma
  obtain ⟨-, ⟨value, hread', -, hmessages', -⟩, -⟩ := read_malformed .untold _ _ _ hvalue
  exact ⟨⟨comma, hread, hmessages.trans (by decide)⟩, value, hread', hmessages'.trans (by decide)⟩

/-- The message with the position need not be the last one of the report. -/
theorem not_messages_eq_pair :
    ¬ ∀ words text problem position fault,
      Json.read text.toList = .error (.malformed problem position) →
        Document.read "json" text = .error fault →
          (fault.failures words).messages = ["Unable to parse JSON tree document",
            problem.message ++ ": " ++ position.phrase] := by
  intro h
  have hread : Document.read "json" "" = .error (.notJson "json" (.malformed .noValue ⟨1, 1, 0⟩)) :=
    rfl
  have hmessages := h .untold "" .noValue ⟨1, 1, 0⟩ _ rfl hread
  rw [messages_notJson] at hmessages
  cases hmessages

end Document

end FormulaTex
