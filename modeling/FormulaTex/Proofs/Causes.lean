import FormulaTex.Console
import FormulaTex.Proofs.Reports

/-!
# The causes behind a message

A message about a failure tells, on request, of the failures behind it, each with the first line of
its text. The lines are those of the whole report without the first one. But blank texts have no
line, so the first line need not be that of the failure itself: if its own text is blank, it is the
first cause with a text that is left out. In every other case the causes are complete.
-/

namespace FormulaTex

open Text

namespace Text

variable {text : List Char}

theorem stripEnd_prefix (text : List Char) : stripEnd text <+: text := by
  obtain ⟨before, hbefore⟩ := List.dropWhile_suffix (l := text.reverse) isBlank
  refine ⟨before.reverse, ?_⟩
  rw [stripEnd, ← List.reverse_append, hbefore, List.reverse_reverse]

theorem strip_eq_nil : strip text = [] ↔ ∀ c ∈ text, isBlank c = true := by
  have hend : ∀ rest : List Char, stripEnd rest = [] ↔ ∀ c ∈ rest, isBlank c = true := by
    intro rest
    rw [stripEnd, List.reverse_eq_nil_iff, List.dropWhile_eq_nil_iff]
    simp only [List.mem_reverse]
  rw [strip, hend]
  constructor
  · intro h c hc
    rw [← List.takeWhile_append_dropWhile (p := isBlank) (l := text)] at hc
    rcases List.mem_append.mp hc with hstart | hrest
    · exact List.mem_takeWhile_imp hstart
    · exact h c hrest
  · intro h c hc
    exact h c ((List.dropWhile_suffix isBlank).subset hc)

/-- What is left of a text without the blanks around it starts with a character that is none. -/
theorem head_strip {c : Char} {rest : List Char} (h : strip text = c :: rest) :
    isBlank c = false := by
  obtain ⟨behind, hbehind⟩ := stripEnd_prefix (stripStart text)
  have hstart : stripStart text = c :: (rest ++ behind) := by
    rw [← hbehind, ← strip, h, List.cons_append]
  have hhead := List.head?_dropWhile_not isBlank text
  rw [← stripStart, hstart] at hhead
  exact hhead

theorem allBlank_eq_true {text : String} :
    allBlank text = true ↔ ∀ c ∈ text.toList, isBlank c = true :=
  List.all_eq_true

end Text

namespace Failure

def line (failure : Failure) : String :=
  String.ofList (strip (firstLine (strip failure.text.toList)))

/-- A failure has no line in a report exactly if its text is blank. -/
theorem firstLine?_text (failure : Failure) :
    firstLine? failure.text = if allBlank failure.text then none else some failure.line := by
  rw [firstLine?, line]
  cases hstrip : strip failure.text.toList with
  | nil =>
    rw [if_pos (allBlank_eq_true.mpr (strip_eq_nil.mp hstrip))]
    rfl
  | cons c rest =>
    have hc := head_strip hstrip
    have hend : isLineEnd c = false := by
      rw [← Bool.not_eq_true]
      intro hend
      rw [isBlank_of_isLineEnd hend] at hc
      cases hc
    have hblank : ¬ allBlank failure.text = true := by
      rw [allBlank_eq_true, ← strip_eq_nil, hstrip]
      exact List.cons_ne_nil c rest
    have hline : ¬ (strip (firstLine (c :: rest))).isEmpty = true := by
      rw [List.isEmpty_iff, strip_eq_nil, firstLine, List.takeWhile_cons_of_pos (by simp [hend])]
      intro hall
      rw [hall c List.mem_cons_self] at hc
      cases hc
    rw [if_neg hblank]
    exact if_neg hline

end Failure

namespace Failures

def causes (failures : Failures) : List Failure :=
  failures.path.tail.filterMap fun place => failures[place]?

theorem chain_cons (failure : Failure) (others : List Failure) :
    chain (failure :: others) = failure :: causes (failure :: others) := by
  have hhead := (leads_path (failure :: others)).head?
  rw [if_neg (by simp)] at hhead
  obtain ⟨rest, hpath⟩ := List.head?_eq_some_iff.mp hhead
  rw [chain, causes, hpath]
  rfl

theorem messages_eq (failures : Failures) :
    failures.messages =
      (failures.chain.filter fun failure => !allBlank failure.text).map Failure.line := by
  rw [messages]
  induction failures.chain with
  | nil => rfl
  | cons failure rest ih =>
    rw [List.filterMap_cons, Failure.firstLine?_text, List.filter_cons]
    cases allBlank failure.text with
    | true => exact ih
    | false => exact congrArg (List.cons failure.line) ih

def causeLines (failures : Failures) : List String :=
  (failures.causes.filter fun cause => !allBlank cause.text).map
    fun cause => "caused by: " ++ cause.line

/-- Without its first line, a report loses that of a cause if the failure itself has none. -/
theorem map_drop_messages (failure : Failure) (others : List Failure) :
    ((messages (failure :: others)).drop 1).map (fun line => "caused by: " ++ line) =
      (causeLines (failure :: others)).drop (if allBlank failure.text then 1 else 0) := by
  rw [messages_eq, chain_cons, causeLines, List.filter_cons]
  cases allBlank failure.text with
  | true =>
    simp only [Bool.not_true, Bool.false_eq_true, if_false, if_true, ← List.map_drop, List.map_map]
    rfl
  | false =>
    simp only [Bool.not_false, Bool.false_eq_true, if_false, if_true, List.map_cons,
      List.drop_succ_cons, List.drop_zero, List.map_map]
    rfl

end Failures

namespace Text.Terminal

variable (rows : List Char → List (List Char))

theorem shown_append (a b : String) :
    shown rows (a ++ "\n" ++ b) = shown rows a ++ shown rows b := by
  have htext : ((a ++ "\n" ++ b).toList.filter fun c => !isDropped c) =
      (a.toList.filter fun c => !isDropped c) ++ '\n' ::
        (b.toList.filter fun c => !isDropped c) := by
    rw [String.toList_append, String.toList_append, List.filter_append, List.filter_append,
      List.append_assoc]
    rfl
  have hlines : lines (a ++ "\n" ++ b) = lines a ++ lines b := by
    rw [lines, htext, cutAt_append, List.map_append, ← lines, ← lines]
  rw [shown, hlines, List.flatMap_append, List.map_append, String.join_append, ← shown, ← shown]

theorem shown_intercalate (line : String) (rest : List String) :
    shown rows ("\n".intercalate (line :: rest)) =
      String.join ((line :: rest).map (shown rows)) := by
  induction rest generalizing line with
  | nil => simp
  | cons next rest ih =>
    rw [String.intercalate_cons_cons, shown_append, ih]
    exact String.join_cons.symm

end Text.Terminal

namespace Console

open Failures (causes causeLines)

def isCauseLine (line : String) : Bool :=
  "caused by: ".toList.isPrefixOf line.toList

theorem isCauseLine_cause (line : String) : isCauseLine ("caused by: " ++ line) = true := by
  rw [isCauseLine, String.toList_append, List.isPrefixOf_iff_prefix]
  exact List.prefix_append _ _

theorem isCauseLine_type (name : String) : isCauseLine ("type: " ++ name) = false := by
  rw [isCauseLine, String.toList_append]
  rfl

theorem isCauseLine_repr (spelled : String) : isCauseLine ("repr: " ++ spelled) = false := by
  rw [isCauseLine, String.toList_append]
  rfl

def reprLines (state : State) (failure : Failure) : List String :=
  if state.verbosity = 1 then [] else ["repr: " ++ failure.spelled]

/-- The lines that tell of causes, of which one may be missing. -/
def toldCauses (failure : Failure) (others : List Failure) : List String :=
  (causeLines (failure :: others)).drop (if allBlank failure.text then 1 else 0)

theorem details_eq {state : State} (h : 0 < state.verbosity) (failure : Failure)
    (others : List Failure) :
    details state (failure :: others) =
      ["type: " ++ failure.kind.name] ++ toldCauses failure others ++ reprLines state failure := by
  simp only [details, Nat.ne_of_gt h, if_false, Failures.map_drop_messages, reprLines, toldCauses]

theorem filter_details {state : State} (h : 0 < state.verbosity) (failure : Failure)
    (others : List Failure) :
    (details state (failure :: others)).filter isCauseLine = toldCauses failure others := by
  have hcauses : ∀ line ∈ toldCauses failure others, isCauseLine line = true := by
    intro line hline
    obtain ⟨cause, -, rfl⟩ := List.mem_map.mp (List.mem_of_mem_drop hline)
    exact isCauseLine_cause cause.line
  have hrepr : (reprLines state failure).filter isCauseLine = [] := by
    rw [reprLines]
    split_ifs
    · rfl
    · rw [List.filter_cons_of_neg (by simp [isCauseLine_repr]), List.filter_nil]
  rw [details_eq h, List.filter_append, List.filter_append, hrepr, List.append_nil,
    List.filter_cons_of_neg (by simp [isCauseLine_type]), List.filter_nil, List.nil_append,
    List.filter_eq_self.mpr hcauses]

theorem drop_one_eq_self {lines : List String} : lines.drop 1 = lines ↔ lines = [] := by
  cases lines with
  | nil => simp
  | cons line rest => simp

/-- With details on, a message tells of every cause with a text, in the order of the report and
with the first line of the text, if the failure itself has a text or no cause has one. Otherwise
the first such cause is left out. The details are lines behind the message, and no line of a cause
stands for the failure itself. -/
theorem details_causes (display : Display) (state : State) (failure : Failure)
    (others : List Failure) (h : 0 < state.verbosity) :
    let failures : Failures := failure :: others
    failures.Leads [] 0 failures.path ∧ failures.chain = failure :: causes failures ∧
    (details state failures).filter isCauseLine =
      (causeLines failures).drop (if allBlank failure.text then 1 else 0) ∧
    ((details state failures).filter isCauseLine = causeLines failures ↔
      allBlank failure.text = false ∨ causeLines failures = []) ∧
    details state failures =
      ["type: " ++ failure.kind.name] ++ (details state failures).filter isCauseLine
        ++ (if state.verbosity = 1 then [] else ["repr: " ++ failure.spelled]) ∧
    ∀ level text, level ≠ "info" →
      message display state level text failures =
        String.join (((level ++ ": " ++ text) :: details state failures).map
          (Terminal.shown display.rows)) := by
  intro failures
  refine ⟨failures.leads_path, Failures.chain_cons failure others, filter_details h failure others,
    ?_, ?_, ?_⟩
  · rw [filter_details h failure others, toldCauses]
    cases hblank : allBlank failure.text with
    | true => simpa using drop_one_eq_self
    | false => exact ⟨fun _ => .inl rfl, fun _ => rfl⟩
  · rw [filter_details h failure others]
    exact details_eq h failure others
  · intro level text hlevel
    rw [message, if_neg hlevel, Terminal.shown_intercalate]

/-- A cause without a text has no line, and a context counts like a cause. -/
theorem details_causes_context :
    let state : State := ⟨2, false⟩
    let failure : Failure := ⟨.other "ValueError", [.str "outer"], some 1, none⟩
    let others : List Failure :=
      [⟨.other "OSError", [.str " \n"], none, some 2⟩, .ofText (.other "OSError") "\nroot\nmore"]
    0 < state.verbosity ∧
      (details state (failure :: others)).filter isCauseLine = ["caused by: root"] ∧
      message .plain state "error" "m" (failure :: others) =
        "error: m\ntype: ValueError\ncaused by: root\nrepr: ValueError('outer')\n" := by
  intro state failure others
  have hverbose : 0 < state.verbosity := by decide
  obtain ⟨-, -, hcauses, -, hdetails, hmessage⟩ :=
    details_causes .plain state failure others hverbose
  refine ⟨hverbose, hcauses.trans (by decide +kernel), ?_⟩
  rw [hmessage "error" "m" (by decide), hdetails, hcauses]
  decide +kernel

/-- A failure without a text hides the text of its cause. -/
theorem not_details_causes :
    ¬ ∀ (state : State) (failure : Failure) (others : List Failure), 0 < state.verbosity →
      (details state (failure :: others)).filter isCauseLine = causeLines (failure :: others) := by
  intro h
  have hcause := h ⟨1, false⟩ ⟨.other "ValueError", [], some 1, none⟩
    [.ofText (.other "RuntimeError") "boom"] (by decide)
  rw [filter_details (by decide)] at hcause
  exact absurd hcause (by decide +kernel)

end Console

end FormulaTex
