import FormulaTex.Proofs.Loaded

/-!
# The depth of documents

A document bounds the height of its tree. Each value that is read as a tree stands at least one
level of the document below the value that it is a part of, and a node takes one level more than its
children. The frown over an arc takes a level too, but it stands beside the operand, which takes at
least as many.
-/

namespace FormulaTex

namespace Value

mutual

/-- The levels of collections in a value, itself included. Keys of mappings do not count, and a
collection that is met again inside itself is one level. -/
def nesting : Value → Nat
  | .list _ items => 1 + nestingOfAll items
  | .tuple items => 1 + nestingOfAll items
  | .map _ entries => 1 + nestingOfEntries entries
  | _ => 1

def nestingOfAll : List Value → Nat
  | [] => 0
  | item :: items => max item.nesting (nestingOfAll items)

def nestingOfEntries : List (Scalar × Value) → Nat
  | [] => 0
  | (_, item) :: entries => max item.nesting (nestingOfEntries entries)

end

theorem nestingOfAll_cons (item : Value) (items : List Value) :
    nestingOfAll (item :: items) = max item.nesting (nestingOfAll items) := rfl

theorem nestingOfEntries_cons (key : Scalar) (item : Value) (entries : List (Scalar × Value)) :
    nestingOfEntries ((key, item) :: entries) = max item.nesting (nestingOfEntries entries) := rfl

theorem one_le_nesting (v : Value) : 1 ≤ v.nesting := by
  cases v <;> simp only [nesting] <;> omega

theorem nesting_le_of_mem {items : List Value} {item : Value} (h : item ∈ items) :
    item.nesting ≤ nestingOfAll items := by
  induction items with
  | nil => cases h
  | cons first items ih =>
    rw [nestingOfAll_cons]
    obtain rfl | h := List.mem_cons.mp h
    · exact Nat.le_max_left _ _
    · exact Nat.le_trans (ih h) (Nat.le_max_right _ _)

theorem nesting_le_of_field? {entries : List (Scalar × Value)} {name : String} {value : Value}
    (h : field? name entries = some value) : value.nesting ≤ nestingOfEntries entries := by
  induction entries with
  | nil => cases h
  | cons entry entries ih =>
    obtain ⟨key, item⟩ := entry
    rw [Layout.field?_cons] at h
    rw [nestingOfEntries_cons]
    split_ifs at h
    · cases h
      exact Nat.le_max_left _ _
    · exact Nat.le_trans (ih h) (Nat.le_max_right _ _)

theorem one_le_height {v : Value} (h : v.isNode = true) : 1 ≤ v.height := by
  cases v with
  | literal _ | symbol _ | textRun _ => exact Nat.le_refl 1
  | _ => first | exact Nat.le_add_right 1 _ | cases h

theorem heightOfAll_le {n : Nat} {items : List Value} (h : ∀ item ∈ items, item.height ≤ n) :
    heightOfAll items ≤ n := by
  induction items with
  | nil => exact Nat.zero_le n
  | cons item items ih =>
    rw [List.forall_mem_cons] at h
    exact Nat.max_le.mpr ⟨h.1, ih h.2⟩

theorem heightOfRows_le {n : Nat} {rows : List (Row Value)}
    (h : ∀ cell ∈ rows.flatMap Row.cells, cell.height ≤ n) : heightOfRows rows ≤ n := by
  induction rows with
  | nil => exact Nat.zero_le n
  | cons row rows ih =>
    rw [List.flatMap_cons, List.forall_mem_append] at h
    exact Nat.max_le.mpr ⟨heightOfAll_le h.1, ih h.2⟩

/-- The frown over an arc needs an operand beside it that takes a level. -/
theorem height_le {n : Nat} {v : Value} (hnode : ∀ c ∈ v.children, c.isNode = true)
    (h : ∀ c ∈ v.children, c.height ≤ n) : v.height ≤ 1 + n := by
  cases v with
  | scalar s => cases s <;> simp only [height] <;> omega
  | sequence items separator => exact Nat.add_le_add_left (heightOfAll_le h) 1
  | matrix rows left right => exact Nat.add_le_add_left (heightOfRows_le h) 1
  | parenthesized inner left right =>
    exact Nat.add_le_add_left (h inner List.mem_cons_self) 1
  | subSup base sub sup =>
    obtain ⟨hbase, hscripts⟩ := List.forall_mem_cons.mp h
    have hboth := (forall_scripts (p := fun c => c.height ≤ n) (Nat.zero_le n) sub sup).mp hscripts
    exact Nat.add_le_add_left (Nat.max_le.mpr ⟨hbase, Nat.max_le.mpr hboth⟩) 1
  | unary operator operand =>
    have hone := one_le_height (hnode operand List.mem_cons_self)
    rw [height, Nat.max_eq_right hone, ite_self]
    exact Nat.add_le_add_left (h operand List.mem_cons_self) 1
  | binary operator left right =>
    obtain ⟨hleft, hright⟩ := List.forall_mem_cons.mp h
    have hright := hright right List.mem_cons_self
    rw [height]
    split_ifs
    · exact Nat.add_le_add_left hright 1
    · exact Nat.add_le_add_left (Nat.max_le.mpr ⟨hleft, hright⟩) 1
  | _ => exact Nat.le_add_right 1 n

end Value

namespace Layout.Place

variable {p q : Place} {node : Value}

theorem nesting_inside (h : Inside p q) : q.value.nesting < p.value.nesting := by
  obtain hitem | ⟨name, hentry⟩ := h
  · obtain ⟨label, items, hvalue, hmem, -⟩ := mem_items hitem
    have := Value.nesting_le_of_mem hmem
    rw [hvalue, Value.nesting]
    omega
  · obtain ⟨label, entries, hvalue, hfield, -⟩ := mem_entry hentry
    have := Value.nesting_le_of_field? hfield
    rw [hvalue, Value.nesting]
    omega

theorem nesting_parts (h : q ∈ p.parts) : q.value.nesting < p.value.nesting := by
  have hinside := inside_of_mem_parts h
  clear h
  induction hinside with
  | single hinside => exact nesting_inside hinside
  | tail _ hinside ih => exact Nat.lt_trans (nesting_inside hinside) ih

theorem height_le_nesting (hp : p.IsPlain) (h : p.read = .ok node) :
    node.height ≤ p.value.nesting := by
  induction p using Place.induction generalizing node with
  | step p ih =>
    have hlay := lay_parts hp.isNode h
    have hpart : ∀ c ∈ node.children, ∃ q ∈ p.parts, q.read = .ok c ∧ q.IsPlain := by
      intro c hc
      obtain ⟨q, hq, hread⟩ := hlay.exists_place hc
      exact ⟨q, hq, hread, inherit IsPlain.inside (.single hq) hp⟩
    have hchildren : ∀ c ∈ node.children, c.height ≤ p.value.nesting - 1 := by
      intro c hc
      obtain ⟨q, hq, hread, hplain⟩ := hpart c hc
      have hheight := ih q hq hplain hread
      have hnesting := nesting_parts hq
      omega
    have hnode : ∀ c ∈ node.children, c.isNode = true := by
      intro c hc
      obtain ⟨q, -, hread, -⟩ := hpart c hc
      exact isNode_of_read hread
    have hheight := Value.height_le hnode hchildren
    have hone := Value.one_le_nesting p.value
    omega

end Layout.Place

namespace Layout

/-- The tree of a plain document takes at most as many levels of depth as the document has levels
of collections. A walk that may go as deep as that never goes too deep. -/
theorem height_le_of_read {document tree : Value} (hplain : document.isPlain = true)
    (h : read document = .ok tree) :
    tree.height ≤ document.nesting ∧
      ∀ r : Renderer, document.nesting ≤ r.settings.maxDepth → ∀ limit,
        (r.render tree).outcome ≠ .error (.tooDeep limit) ∧
          ∀ capacity, document.nesting ≤ capacity →
            (r.renderWithin capacity tree).outcome ≠ .error (.tooDeep limit) := by
  have hheight : tree.height ≤ document.nesting :=
    Place.height_le_nesting (Place.isPlain_root hplain) h
  have htree := Place.isTree_of_read hplain (Place.root document) .refl h
  have hroom : ∀ r : Renderer, document.nesting ≤ r.settings.maxDepth → ∀ limit,
      (r.render tree).outcome ≠ .error (.tooDeep limit) := by
    intro r hr limit houtcome
    obtain ⟨-, hdeep⟩ | ⟨arity, operator, -, hfault⟩ := Renderer.fault_of_isTree htree houtcome
    · omega
    · unfold RenderFault.ofOperator at hfault
      split_ifs at hfault
  refine ⟨hheight, fun r hr limit => ⟨hroom r hr limit, fun capacity hcapacity houtcome => ?_⟩⟩
  obtain ⟨fault, hfault, hlimit⟩ := mapError_eq_error.mp houtcome
  have hlow := hroom (r.withMaxDepth (min capacity r.settings.maxDepth))
    (Nat.le_min.mpr ⟨hcapacity, hr⟩)
  cases fault with
  | tooDeep n => exact hlow n hfault
  | _ => cases hlimit

/-- The frown over an arc is on the level of the operand. -/
theorem height_le_of_read_arc :
    let document := Value.map none
      [(.str "type", .str "unary"), (.str "op", .str "overarc"), (.str "e", .str "x")]
    let tree := Value.unary (.symbol (some "overarc")) (.literal "x")
    let r := Renderer.ofSettings { maxDepth := 2 }
    document.isPlain = true ∧ read document = .ok tree ∧ document.nesting = 2 ∧
      tree.height ≤ 2 ∧ (∀ limit, (r.render tree).outcome ≠ .error (.tooDeep limit)) ∧
      (r.render tree).outcome = .ok "\\overset\x7b\\frown\x7d\x7bx\x7d" ∧
      ((r.withMaxDepth 1).render tree).outcome = .error (.tooDeep 1) := by
  intro document tree r
  have hplain : document.isPlain = true := rfl
  have hread : read document = .ok tree := rfl
  have h := height_le_of_read hplain hread
  have hroom := fun limit => (h.2 r (by decide) limit).1
  exact ⟨hplain, hread, rfl, h.1, hroom, rfl, rfl⟩

end Layout

end FormulaTex
