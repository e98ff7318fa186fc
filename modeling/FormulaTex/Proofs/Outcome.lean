import FormulaTex.Proofs.Walk

/-!
# When a tree has a rendering

A tree has a rendering exactly when it is not higher than the settings allow and every operator in
it is a symbol or raw text. Otherwise the fault is the first one in the order of the output. The
height counts what the walk counts: the frown over an arc takes a level, and neither the rows of a
matrix nor an index that is left out do.
-/

namespace FormulaTex

namespace Value

/-- Whether a value is the symbol of that name. -/
def isTag (name : String) : Value → Bool
  | .symbol tag => tag = some name
  | _ => false

def isOperator : Value → Bool
  | .symbol _ | .rawText _ => true
  | _ => false

mutual

/-- The levels of depth that a value takes. -/
def height : Value → Nat
  | .null => 0
  | .sequence items _ => 1 + heightOfAll items
  | .parenthesized inner _ _ => 1 + height inner
  | .subSup base sub sup => 1 + max (height base) (max (height sub) (height sup))
  | .unary operator operand =>
    1 + if operator.isTag "overarc" then max 1 (height operand) else height operand
  | .binary operator left right =>
    1 + if operator.isTag "root" && Renderer.isNoIndex left then height right
      else max (height left) (height right)
  | .matrix rows _ _ => 1 + heightOfRows rows
  | _ => 1

def heightOfAll : List Value → Nat
  | [] => 0
  | item :: items => max (height item) (heightOfAll items)

def heightOfRows : List (Row Value) → Nat
  | [] => 0
  | ⟨cells, _⟩ :: rows => max (heightOfAll cells) (heightOfRows rows)

end

mutual

/-- Whether every operation in a tree has an operator that can be written. -/
def isOperable : Value → Bool
  | .sequence items _ => areOperable items
  | .parenthesized inner _ _ => isOperable inner
  | .subSup base sub sup => isOperable base && isOperable sub && isOperable sup
  | .unary operator operand => operator.isOperator && isOperable operand
  | .binary operator left right => operator.isOperator && isOperable left && isOperable right
  | .matrix rows _ _ => areOperableRows rows
  | _ => true

def areOperable : List Value → Bool
  | [] => true
  | item :: items => isOperable item && areOperable items

def areOperableRows : List (Row Value) → Bool
  | [] => true
  | ⟨cells, _⟩ :: rows => areOperable cells && areOperableRows rows

end

theorem heightOfAll_cons (item : Value) (items : List Value) :
    heightOfAll (item :: items) = max item.height (heightOfAll items) := rfl

theorem heightOfRows_cons (row : Row Value) (rows : List (Row Value)) :
    heightOfRows (row :: rows) = max (heightOfAll row.cells) (heightOfRows rows) := rfl

theorem areOperable_cons (item : Value) (items : List Value) :
    areOperable (item :: items) = (item.isOperable && areOperable items) := rfl

theorem areOperableRows_cons (row : Row Value) (rows : List (Row Value)) :
    areOperableRows (row :: rows) = (areOperable row.cells && areOperableRows rows) := rfl

end Value

namespace Steps

/-- None of the steps ends a walk of at most `limit` levels. -/
def Clear (limit : Nat) (steps : List Step) : Prop :=
  ∀ s ∈ steps, s.fault? limit = none

variable {limit depth n : Nat} {a b : List Step} {p : Prop}

@[simp] theorem clear_nil : Clear limit [] := by simp [Clear]

@[simp] theorem clear_cons (s : Step) :
    Clear limit (s :: a) ↔ s.fault? limit = none ∧ Clear limit a := by
  simp [Clear]

@[simp] theorem clear_append : Clear limit (a ++ b) ↔ Clear limit a ∧ Clear limit b := by
  simp [Clear, or_imp, forall_and]

@[simp] theorem clear_braced : Clear limit (braced a) ↔ Clear limit a := by
  simp [braced, Step.fault?]

@[simp] theorem clear_upright (text : String) : Clear limit (upright text) := by
  simp [upright, Step.fault?]

@[simp] theorem clear_literal (text : String) : Clear limit (literal text) := by
  unfold literal
  split <;> simp [Step.fault?]

@[simp] theorem clear_delimited (left right : Option Tag) :
    Clear limit (delimited left right a) ↔ Clear limit a := by
  unfold delimited
  split <;> simp [Step.fault?]

@[simp] theorem clear_grouped (argument : Value) :
    Clear limit (grouped argument a) ↔ Clear limit a := by
  unfold grouped
  split <;> simp

@[simp] theorem clear_matrix (left right : Option Tag) :
    Clear limit (matrix left right a) ↔ Clear limit a := by
  simp [matrix, Step.fault?]

theorem clear_script (mark : String) (v : Value) :
    Clear limit (script mark v (of depth v)) ↔ Clear limit (of depth v) := by
  unfold script
  split_ifs with h
  · have hnull : v = .null := by
      unfold Value.isNull at h
      split at h
      · rfl
      · cases h
    simp [hnull, of]
  · simp [Step.fault?]

/-- Two parts that stand side by side need the room of the higher one. -/
theorem within_max {m n : Nat} {p q : Prop} :
    (depth + m ≤ limit ∧ p) ∧ (depth + n ≤ limit ∧ q) ↔ depth + max m n ≤ limit ∧ (p ∧ q) := by
  constructor
  · rintro ⟨⟨hm, hp⟩, hn, hq⟩
    exact ⟨by omega, hp, hq⟩
  · rintro ⟨hmax, hp, hq⟩
    exact ⟨⟨by omega, hp⟩, by omega, hq⟩

theorem clear_enter (h : depth + 1 ≤ limit → (Clear limit a ↔ depth + 1 + n ≤ limit ∧ p)) :
    Clear limit ([.enter (depth + 1)] ++ a) ↔ depth + (1 + n) ≤ limit ∧ p := by
  have hstep : Clear limit [.enter (depth + 1)] ↔ depth + 1 ≤ limit := by
    simp [Step.fault?]
  rw [clear_append, hstep]
  constructor
  · rintro ⟨hlevel, ha⟩
    have := (h hlevel).mp ha
    exact ⟨by omega, this.2⟩
  · rintro ⟨hlevel, hp⟩
    have hlimit : depth + 1 ≤ limit := by omega
    exact ⟨hlimit, (h hlimit).mpr ⟨by omega, hp⟩⟩

theorem clear_unary (operator : Value) (hdepth : depth ≤ limit)
    (h : Clear limit a ↔ depth + n ≤ limit ∧ p) :
    Clear limit (unary depth operator a) ↔
      depth + (if operator.isTag "overarc" then max 1 n else n) ≤ limit ∧
        (operator.isOperator = true ∧ p) := by
  cases operator with
  | symbol tag =>
    have harc : depth + 1 ≤ limit ∧ depth + n ≤ limit ↔ depth + max 1 n ≤ limit := by omega
    simp only [unary, applied, Value.isTag, Value.isOperator, decide_eq_true_eq, true_and]
    split_ifs <;> simp_all [Step.fault?, ← and_assoc]
  | rawText text => simp [unary, Value.isTag, Value.isOperator, Step.fault?, h]
  | _ => simp [unary, Value.isTag, Value.isOperator, Step.fault?]

theorem isOperable_of_isNoIndex {index : Value} (h : Renderer.isNoIndex index = true) :
    index.isOperable = true := by
  cases index with
  | sequence items separator =>
    have : items = [] := by simpa [Renderer.isNoIndex] using h
    simp [this, Value.isOperable, Value.areOperable]
  | literal text => rfl
  | scalar s => rfl
  | _ => cases h

theorem clear_binary (operator index : Value) {m : Nat} {q : Prop}
    (hindex : Renderer.isNoIndex index = true → p)
    (ha : Clear limit a ↔ depth + m ≤ limit ∧ p) (hb : Clear limit b ↔ depth + n ≤ limit ∧ q) :
    Clear limit (binary operator index a b) ↔
      depth + (if operator.isTag "root" && Renderer.isNoIndex index then n else max m n) ≤ limit ∧
        ((operator.isOperator = true ∧ p) ∧ q) := by
  have hboth : Clear limit a ∧ Clear limit b ↔ depth + max m n ≤ limit ∧ (p ∧ q) := by
    rw [ha, hb, within_max]
  cases operator with
  | symbol tag =>
    simp only [binary, Value.isTag, Value.isOperator, true_and]
    split_ifs with hroot hleft <;> simp_all [root, bracketed, Step.fault?]
  | rawText text =>
    simp only [binary, Value.isTag, Value.isOperator]
    simpa [Step.fault?] using hboth
  | _ => simp [binary, Value.isTag, Value.isOperator, Step.fault?]

mutual

theorem clear_of {depth : Nat} (h : depth ≤ limit) :
    (v : Value) → (Clear limit (of depth v) ↔ depth + v.height ≤ limit ∧ v.isOperable = true)
  | .scalar s => by
    cases s with
    | null => simpa [of, Value.height, Value.isOperable] using h
    | _ => simp [of, Value.height, Value.isOperable, Step.fault?]
  | .list .. | .tuple _ | .set _ | .map .. | .cycle .. | .rawText _ | .literal _ | .symbol _
  | .textRun _ => by simp [of, Value.height, Value.isOperable, Step.fault?]
  | .sequence items separator => by
    rw [of, Value.height, Value.isOperable]
    exact clear_enter fun hlevel => clear_joined hlevel rfl items
  | .parenthesized inner left right => by
    rw [of, Value.height, Value.isOperable]
    refine clear_enter fun hlevel => ?_
    rw [clear_delimited, clear_of hlevel inner]
  | .subSup base sub sup => by
    rw [of, Value.height, Value.isOperable]
    refine clear_enter fun hlevel => ?_
    rw [clear_append, clear_append, clear_grouped, clear_script, clear_script,
      clear_of hlevel base, clear_of hlevel sub, clear_of hlevel sup, within_max, within_max,
      Bool.and_eq_true, Bool.and_eq_true, and_assoc]
  | .unary operator operand => by
    rw [of, Value.height, Value.isOperable, Bool.and_eq_true]
    exact clear_enter fun hlevel => clear_unary operator hlevel (clear_of hlevel operand)
  | .binary operator left right => by
    rw [of, Value.height, Value.isOperable]
    simpa only [Bool.and_eq_true] using clear_enter fun hlevel =>
      clear_binary operator left isOperable_of_isNoIndex (clear_of hlevel left)
        (clear_of hlevel right)
  | .matrix rows left right => by
    rw [of, Value.height, Value.isOperable]
    refine clear_enter fun hlevel => ?_
    rw [clear_matrix, clear_joinedRows hlevel rows]

theorem clear_joined {depth : Nat} (h : depth ≤ limit) {gap : Step}
    (hgap : gap.fault? limit = none) :
    (items : List Value) → (Clear limit (joined depth gap items) ↔
      depth + Value.heightOfAll items ≤ limit ∧ Value.areOperable items = true)
  | [] => by simpa [joined, Value.heightOfAll, Value.areOperable] using h
  | [item] => by
    simpa [joined, Value.heightOfAll, Value.areOperable] using clear_of h item
  | item :: next :: items => by
    have hstep : Clear limit [gap] := by simpa using hgap
    rw [joined_cons_cons, clear_append, clear_append, and_iff_right hstep, clear_of h item,
      clear_joined h hgap (next :: items), within_max, Value.heightOfAll_cons item,
      Value.areOperable_cons item, Bool.and_eq_true]

theorem clear_joinedRows {depth : Nat} (h : depth ≤ limit) :
    (rows : List (Row Value)) → (Clear limit (joinedRows depth rows) ↔
      depth + Value.heightOfRows rows ≤ limit ∧ Value.areOperableRows rows = true)
  | [] => by simpa [joinedRows, Value.heightOfRows, Value.areOperableRows] using h
  | [⟨cells, _⟩] => by
    simpa [joinedRows, Value.heightOfRows, Value.areOperableRows] using clear_joined h rfl cells
  | ⟨cells, _⟩ :: next :: rows => by
    have hstep : Clear limit [.mark " \\\\ "] := by simp [Step.fault?]
    rw [joinedRows_cons_cons, clear_append, clear_append, and_iff_right hstep,
      clear_joined h rfl cells, clear_joinedRows h (next :: rows), within_max,
      Value.heightOfRows_cons ⟨cells, _⟩, Value.areOperableRows_cons ⟨cells, _⟩, Bool.and_eq_true]

end

end Steps

namespace Renderer

/-- A tree has a rendering exactly when it is not too high and all its operators can be written.
Otherwise the fault is that of the first step, in the order of the output, that cannot be taken:
a value on a level that is not allowed, or an operation, not too deep itself, whose operator is
neither a symbol nor raw text. -/
theorem render_outcome (r : Renderer) (tree : Value) :
    ((∃ latex, (r.render tree).outcome = .ok latex) ↔
      tree.height ≤ r.settings.maxDepth ∧ tree.isOperable = true) ∧
    ∀ fault, (r.render tree).outcome = .error fault ↔
      ∃ before step after, Steps.of 0 tree = before ++ step :: after ∧
        step.fault? r.settings.maxDepth = some fault ∧
        ∀ s ∈ before, s.fault? r.settings.maxDepth = none := by
  have hclear := Steps.clear_of (Nat.zero_le r.settings.maxDepth) tree
  rw [Nat.zero_add] at hclear
  rw [render_eq_draft, Steps.outcome_draft]
  constructor
  · rw [← hclear, Steps.Clear, ← List.findSome?_eq_none_iff]
    cases (Steps.of 0 tree).findSome? (Step.fault? r.settings.maxDepth) <;> simp
  · intro fault
    rw [← List.findSome?_eq_some_iff]
    cases (Steps.of 0 tree).findSome? (Step.fault? r.settings.maxDepth) <;> simp

end Renderer

end FormulaTex
