import FormulaTex.Failure.Reports
import FormulaTex.Proofs.Data
import FormulaTex.Proofs.Trees

/-!
# Trees of documents

Plain documents lay out complete trees. The operators in them are symbols and raw text, or values
that the documents have in their place and that are kept as they are. So nothing of a document is
left out of its rendering, and with enough room the rendering ends at an operator exactly when some
operation of the document has none that can be written.
-/

namespace FormulaTex

namespace Layout

/-- Whether a value names an operator: a text, or a mapping with a text as its symbol or raw. -/
def spellsOperator : Value → Bool
  | .str _ => true
  | .map _ entries => symbolEntry? entries <|> rawEntry? entries |>.isSome
  | _ => false

theorem readOperator_of_spellsOperator {v : Value} (h : spellsOperator v = true) :
    (∃ tag, readOperator v = .symbol (some tag)) ∨ ∃ text, readOperator v = .rawText text := by
  cases v with
  | scalar s =>
    cases s with
    | str text => exact .inl ⟨text, rfl⟩
    | _ => cases h
  | map label entries =>
    rw [spellsOperator] at h
    rw [readOperator]
    cases hsymbol : symbolEntry? entries with
    | some tag => exact .inl ⟨tag, rfl⟩
    | none =>
      cases hraw : rawEntry? entries with
      | some text => exact .inr ⟨text, rfl⟩
      | none => simp [hsymbol, hraw] at h
  | _ => cases h

theorem readOperator_of_not_spellsOperator {v : Value} (h : spellsOperator v = false) :
    readOperator v = v := by
  cases v with
  | scalar s =>
    cases s with
    | str text => cases h
    | _ => rfl
  | map label entries =>
    have hnone : symbolEntry? entries = none ∧ rawEntry? entries = none := by
      simpa [spellsOperator] using h
    rw [readOperator, hnone.1, hnone.2]
  | _ => rfl

theorem isOperatorUnless_readOperator {foreign : Arity → Value → Prop} {arity : Arity} {v : Value}
    (h : v.isOperator = false) (hforeign : spellsOperator v = false → foreign arity v) :
    (readOperator v).IsOperatorUnless foreign arity := by
  cases hspells : spellsOperator v with
  | true =>
    obtain ⟨tag, hread⟩ | ⟨text, hread⟩ := readOperator_of_spellsOperator hspells
    · rw [hread]
      rfl
    · rw [hread]
      trivial
  | false =>
    rw [readOperator_of_not_spellsOperator hspells]
    have hv := hforeign hspells
    cases v <;> first | exact hv | cases h

theorem ne_of_delimiterField {scope : Scope} {name : String} {entries : List (Scalar × Value)}
    {delimiter : Option Tag} (h : delimiterField scope name entries = .ok delimiter) :
    delimiter ≠ some none := by
  rw [delimiterField] at h
  unfold readDelimiter at h
  intro hnameless
  subst hnameless
  split at h
  · cases h
  · cases h
  · split at h <;> cases h
  · cases h

theorem operatorField_eq_ok {scope : Scope} {kind : String} {entries : List (Scalar × Value)}
    {operator : Value} (h : operatorField scope kind entries = .ok operator) :
    ∃ value, field? "op" entries = some value ∧ operator = readOperator (scope.alone value) := by
  unfold operatorField at h
  split at h
  · cases h
  · rename_i value hfield
    cases h
    exact ⟨value, hfield, rfl⟩

namespace Place

variable {p : Place} {node : Value} {foreign : Arity → Value → Prop}

def operation? (p : Place) : Option (Arity × Value) :=
  match p.value with
  | .map _ entries =>
    let operator := (field? "op" entries).map p.inner.alone
    match Kind.of entries with
    | .unary => operator.map (Arity.unary, ·)
    | .binary => operator.map (Arity.binary, ·)
    | _ => none
  | _ => none

theorem operation?_of_map {label : Option Nat} {entries : List (Scalar × Value)}
    (hp : p.value = .map label entries) :
    p.operation? =
      match Kind.of entries with
      | .unary => ((field? "op" entries).map p.inner.alone).map (Arity.unary, ·)
      | .binary => ((field? "op" entries).map p.inner.alone).map (Arity.binary, ·)
      | _ => none := by
  unfold operation?
  rw [hp]

/-- The node at a place is an operation exactly when the place lays out one, with the operator that
the place names. -/
theorem operation?_of_read (hplain : p.value.isNode = false) (h : p.read = .ok node) :
    node.operation? = p.operation?.map fun o => (o.1, readOperator o.2) := by
  cases forms_of_read h with
  | built hnode => simp [hplain] at hnode
  | literal hp _ | list hp _ =>
    unfold operation?
    rw [hp]
    rfl
  | unary hp hkind hoperator _ | binary hp hkind hoperator _ _ =>
    obtain ⟨value, hfield, rfl⟩ := operatorField_eq_ok hoperator
    rw [operation?_of_map hp, hkind, hfield]
    rfl
  | symbol hp hkind _ | text hp hkind _ | seq hp hkind _ _ _ | paren hp hkind _ _ _
  | subSup hp hkind _ _ _ | matrix hp hkind _ _ _ =>
    rw [operation?_of_map hp, hkind]
    rfl

theorem isOperator_of_operation? (hp : p.IsPlain) {arity : Arity} {operator : Value}
    (h : p.operation? = some (arity, operator)) : operator.isOperator = false := by
  have halone : ∀ {label entries value}, p.value = .map label entries →
      field? "op" entries = some value → (p.inner.alone value).isOperator = false := by
    intro label entries value hmap hfield
    have hinside : Inside p ⟨p.inner, value⟩ := .inr ⟨"op", by simp [entry_of_map hmap, hfield]⟩
    have hvalue := IsPlain.inside hinside hp
    exact hvalue.scope.alone (Value.isOperator_of_isPlain hvalue.value)
  unfold operation? at h
  split at h
  · rename_i label entries hmap
    cases hfield : field? "op" entries with
    | none =>
      rw [hfield] at h
      split at h <;> cases h
    | some value =>
      have hvalue := halone hmap hfield
      rw [hfield] at h
      split at h <;> cases h <;> exact hvalue
  · cases h

theorem whole_of_read (hp : p.IsPlain) (h : p.read = .ok node)
    (hforeign : ∀ arity operator, p.operation? = some (arity, operator) →
      spellsOperator operator = false → foreign arity operator) : node.IsWhole foreign := by
  have hoperator : ∀ {arity operator}, node.operation? = some (arity, operator) →
      operator.IsOperatorUnless foreign arity := by
    intro arity operator hnode
    rw [operation?_of_read hp.isNode h, Option.map_eq_some_iff] at hnode
    obtain ⟨⟨_, value⟩, hoperation, hpair⟩ := hnode
    cases hpair
    exact isOperatorUnless_readOperator (isOperator_of_operation? hp hoperation)
      (hforeign _ _ hoperation)
  cases forms_of_read h with
  | built hnode =>
    rw [hp.isNode] at hnode
    cases hnode
  | paren _ _ _ hleft hright => exact ⟨ne_of_delimiterField hleft, ne_of_delimiterField hright⟩
  | unary _ _ _ _ => exact hoperator rfl
  | binary _ _ _ _ _ => exact hoperator rfl
  | matrix hmap _ hrows hleft hright =>
    exact ⟨(lay_matrix hmap hrows).2, ne_of_delimiterField hleft, ne_of_delimiterField hright⟩
  | _ => rfl

end Place

/-- An operation that the document has at a place where a tree is read, and whose operator is of no
form that is written. -/
def Foreign (document : Value) (arity : Arity) (operator : Value) : Prop :=
  ∃ p, (Place.root document).Above p ∧ p.operation? = some (arity, operator) ∧
    spellsOperator operator = false

namespace Place

variable {p : Place} {node document tree : Value}

theorem isTree_of_read (hplain : document.isPlain = true) (p : Place)
    (habove : (root document).Above p) (h : p.read = .ok node) :
    node.IsTree (Foreign document) := by
  induction p using Place.induction generalizing node with
  | step p ih =>
    have hp := isPlain_above hplain habove
    refine (Value.isTree_iff node).mpr ⟨whole_of_read hp h fun arity operator hop hspells =>
      ⟨p, habove, hop, hspells⟩, fun c hc => ?_⟩
    have hlay := lay_parts hp.isNode h
    obtain ⟨q, hq, hread⟩ := hlay.exists_place hc
    exact ih q hq (habove.tail hq) hread

/-- What is read to make a tree that can be written can be written. -/
theorem operable_of_above (hplain : document.isPlain = true) (h : Layout.read document = .ok tree)
    (htree : tree.isOperable = true) (habove : (root document).Above p) :
    ∃ node, p.read = .ok node ∧ node.isOperable = true := by
  induction habove with
  | refl => exact ⟨tree, h, htree⟩
  | tail habove hpart ih =>
    obtain ⟨node, hread, hnode⟩ := ih
    have hp := isPlain_above hplain habove
    have hlay := lay_parts hp.isNode hread
    obtain ⟨c, hc, hpart⟩ := hlay.exists_node hpart
    exact ⟨c, hpart, ((Value.isOperable_iff node).mp hnode).2 c hc⟩

theorem not_foreign_of_operable (hplain : document.isPlain = true)
    (h : Layout.read document = .ok tree) (htree : tree.isOperable = true) {arity : Arity}
    {operator : Value} : ¬ Foreign document arity operator := by
  rintro ⟨p, habove, hoperation, hspells⟩
  obtain ⟨node, hread, hnode⟩ := operable_of_above hplain h htree habove
  have hp := isPlain_above hplain habove
  have hkept : node.operation? = some (arity, operator) := by
    rw [operation?_of_read hp.isNode hread, hoperation, Option.map_some,
      readOperator_of_not_spellsOperator hspells]
  have hoperator := ((Value.isOperable_iff node).mp hnode).1 arity operator hkept
  rw [isOperator_of_operation? hp hoperation] at hoperator
  cases hoperator

end Place

/-- The tree of a plain document is complete but for the operators that the document has in their
place. Its rendering leaves nothing out, under any settings, and ends at one of these operators or
below the depth that the settings allow. With room for the whole tree, it ends at an operator
exactly when there is one. The fault then names the operator, if that can be spelled. -/
theorem render_of_read {document tree : Value} (hplain : document.isPlain = true)
    (h : read document = .ok tree) :
    tree.IsTree (Foreign document) ∧ ∀ r : Renderer,
      (∀ typeName, .skipped typeName ∉ (r.render tree).notes) ∧
      (∀ fault, (r.render tree).outcome = .error fault →
        (fault = .tooDeep r.settings.maxDepth ∧ r.settings.maxDepth < tree.height) ∨
          ∃ arity operator, Foreign document arity operator ∧
            fault = .ofOperator operator arity) ∧
      (tree.height ≤ r.settings.maxDepth →
        ((∃ arity operator, Foreign document arity operator ∧
            (r.render tree).outcome = .error (.ofOperator operator arity)) ↔
          ∃ arity operator, Foreign document arity operator)) := by
  have htree := Place.isTree_of_read hplain (Place.root document) .refl h
  refine ⟨htree, fun r => ⟨Renderer.not_skipped_of_isTree htree,
    fun fault => Renderer.fault_of_isTree htree, fun hroom => ⟨?_, ?_⟩⟩⟩
  · rintro ⟨arity, operator, hforeign, -⟩
    exact ⟨arity, operator, hforeign⟩
  · rintro ⟨arity, operator, hforeign⟩
    cases houtcome : (r.render tree).outcome with
    | ok latex =>
      have hoperable := Renderer.isOperable_of_ok houtcome
      exact absurd hforeign (Place.not_foreign_of_operable hplain h hoperable)
    | error fault =>
      obtain ⟨-, hdeep⟩ | ⟨first, value, hfirst, rfl⟩ := Renderer.fault_of_isTree htree houtcome
      · omega
      · exact ⟨first, value, hfirst, rfl⟩

/-- An operation without an operator that is written, below a script. -/
theorem render_of_read_list :
    let document := Value.map none [(.str "type", .str "subsup"), (.str "e", .str "x"),
      (.str "sup", .map none
        [(.str "type", .str "unary"), (.str "op", .list none []), (.str "e", .str "y")])]
    let tree := Value.subSup (.literal "x") .null (.unary (.list none []) (.literal "y"))
    let r := Renderer.ofSettings {}
    document.isPlain = true ∧ read document = .ok tree ∧
      tree.IsTree (Foreign document) ∧ tree.height ≤ r.settings.maxDepth ∧
      Foreign document .unary (.list none []) ∧
      (r.render tree).outcome = .error (.unsupportedOperator (.list none []) .unary) := by
  intro document tree r
  have hplain : document.isPlain = true := by decide
  have hread : read document = .ok tree := rfl
  have hmain := render_of_read hplain hread
  obtain ⟨-, hdeep⟩ | ⟨arity, operator, hforeign, hfault⟩ :=
      (hmain.2 r).2.1 (.unsupportedOperator (.list none []) .unary) rfl
  · exact absurd hdeep (by decide)
  · have hkept : operator = .list none [] ∧ arity = .unary := by
      unfold RenderFault.ofOperator at hfault
      split_ifs at hfault
      cases hfault
      exact ⟨rfl, rfl⟩
    obtain ⟨rfl, rfl⟩ := hkept
    exact ⟨hplain, hread, hmain.1, by decide, hforeign, rfl⟩

/-- An operator that is an integer beyond the limit of digits is refused by a fault that does not
name it. -/
theorem render_of_read_long_operator :
    let operator := Value.scalar (.int (.ofNat (Nat.pow 16 Number.digitLimit)))
    let document := Value.map none
      [(.str "type", .str "unary"), (.str "op", operator), (.str "e", .str "x")]
    let tree := Value.unary operator (.literal "x")
    document.isPlain = true ∧ read document = .ok tree ∧
      ((Renderer.ofSettings {}).render tree).outcome = .error .unspellableOperator ∧
      RenderFault.unspellableOperator.failure.kind = .other "ValueError" := by
  intro operator document tree
  have hrefused : ∀ s : Scalar,
      ((Renderer.ofSettings {}).render (.unary (.scalar s) (.literal "x"))).outcome =
        .error (.ofOperator (.scalar s) .unary) := fun _ => rfl
  have hlong : operator.isSpellable = false := by
    have hdigits : ∀ k : Nat,
        decide ((Int.ofNat (Nat.pow 16 k)).natAbs < Nat.pow 10 k) = false := by
      intro k
      have hle : Nat.pow 10 k ≤ (Int.ofNat (Nat.pow 16 k)).natAbs :=
        Nat.pow_le_pow_left (by decide) k
      exact decide_eq_false (Nat.not_lt.mpr hle)
    exact hdigits Number.digitLimit
  have hfault : ∀ v : Value, v.isSpellable = false →
      RenderFault.ofOperator v .unary = .unspellableOperator := by
    intro v hv
    simp [RenderFault.ofOperator, hv]
  exact ⟨rfl, rfl, (hrefused _).trans (congrArg _ (hfault _ hlong)), rfl⟩

end Layout

end FormulaTex
