import FormulaTex.Layout
import FormulaTex.Proofs.Children
import Mathlib.Data.List.Forall2
import Mathlib.Logic.Relation

/-!
# Places of a document

The reader takes some values of a document as trees of their own: the document itself, the items of
lists and sequences, the parts of nodes, and the cells of matrices. A place is such a value together
with the collections around it. All other values are looked at where they stand, and none of them
is read: kinds, texts, separators, delimiters and operators.

What the reader does at a place is said here in terms of what it does at the parts of the place, so
that nothing further on has to follow the reader through the entries of a mapping. What holds of a
place when it holds of its parts holds of every place.
-/

namespace FormulaTex

namespace Layout

section

variable {ε α β : Type} {x : Except ε α} {f : α → Except ε β}

theorem bind_eq_ok {b : β} : (x >>= f) = .ok b ↔ ∃ a, x = .ok a ∧ f a = .ok b := by
  cases x <;> simp [Bind.bind, Except.bind]

theorem bind_eq_error {e : ε} :
    (x >>= f) = .error e ↔ x = .error e ∨ ∃ a, x = .ok a ∧ f a = .error e := by
  cases x <;> simp [Bind.bind, Except.bind]

theorem map_eq_ok {g : α → β} {b : β} : x.map g = .ok b ↔ ∃ a, x = .ok a ∧ g a = b := by
  cases x <;> simp [Except.map]

theorem map_bind {γ : Type} {g : β → γ} : (x >>= f).map g = x >>= fun a => (f a).map g := by
  cases x <;> rfl

theorem mapError_eq_ok {ε' : Type} {g : ε → ε'} {a : α} : x.mapError g = .ok a ↔ x = .ok a := by
  cases x <;> simp [Except.mapError]

theorem mapError_eq_error {ε' : Type} {g : ε → ε'} {e : ε'} :
    x.mapError g = .error e ↔ ∃ fault, x = .error fault ∧ g fault = e := by
  cases x <;> simp [Except.mapError]

end

/-- What the entry for its type tells of a mapping. -/
inductive Kind where
  | untyped
  | text
  | seq
  | paren
  | subSup
  | unary
  | binary
  | matrix
  | unknown (type : Value)

def Kind.of (entries : List (Scalar × Value)) : Kind :=
  match (field? "type" entries).getD .null with
  | .null => untyped
  | .str "text" => text
  | .str "seq" => seq
  | .str "paren" => paren
  | .str "subsup" => subSup
  | .str "unary" => unary
  | .str "binary" => binary
  | .str "matrix" => matrix
  | type => unknown type

variable (scope : Scope) (entries : List (Scalar × Value))

theorem field?_cons {α : Type} (name : String) (key : Scalar) (value : α)
    (rest : List (Scalar × α)) :
    field? name ((key, value) :: rest) =
      if key = .str name then some value else field? name rest := by
  by_cases h : key = .str name <;> simp [field?, h]

theorem nodeField_eq (kind name : String) :
    nodeField scope kind name entries =
      match field? name entries with
      | none => .error (.missingField kind name)
      | some value => readIn scope value := by
  induction entries with
  | nil => rfl
  | cons entry rest ih =>
    obtain ⟨key, value⟩ := entry
    rw [nodeField, field?_cons]
    split_ifs with h
    · rfl
    · exact ih

theorem scriptField_eq (name : String) :
    scriptField scope name entries =
      match field? name entries with
      | none => .ok .null
      | some value => if value.isNull then .ok .null else readIn scope value := by
  induction entries with
  | nil => rfl
  | cons entry rest ih =>
    obtain ⟨key, value⟩ := entry
    rw [scriptField, field?_cons]
    split_ifs with h hnull
    · simp [hnull]
    · simp [hnull]
    · exact ih

theorem itemsField_eq (separator : Except Fault (Option String)) :
    itemsField scope separator entries =
      match field? "items" entries with
      | none => .error (.missingField "seq" "items")
      | some (.list label items) => do
        let separator ← separator
        return .sequence (← readAll (scope.enter label (.list label items)) items) separator
      | some (.cycle _ .list) => do
        let _ ← separator
        .error .endless
      | some _ => .error .sequenceItems := by
  induction entries with
  | nil => rfl
  | cons entry rest ih =>
    obtain ⟨key, value⟩ := entry
    rw [itemsField.eq_def, field?_cons]
    dsimp only
    split_ifs with h
    · cases value with
      | cycle label shape => cases shape <;> rfl
      | _ => rfl
    · exact ih

theorem rowsField_eq :
    rowsField scope entries =
      match field? "rows" entries with
      | none => .error (.missingField "matrix" "rows")
      | some (.list label rows) =>
        if rows.all isList then readRows (scope.enter label (.list label rows)) rows
        else .error .matrixRows
      | some value => .error (if isTable (scope.alone value) then .endless else .matrixRows) := by
  induction entries with
  | nil => rfl
  | cons entry rest ih =>
    obtain ⟨key, value⟩ := entry
    rw [rowsField.eq_def, field?_cons]
    dsimp only
    split_ifs with h
    · cases value <;> rfl
    · exact ih

/-- A value with the collections around it. -/
structure Place where
  scope : Scope
  value : Value

namespace Place

def read (p : Place) : Except Fault Value :=
  readIn p.scope p.value

def root (document : Value) : Place :=
  ⟨[], document⟩

def inner (p : Place) : Scope :=
  match p.value with
  | .list label _ => p.scope.enter label p.value
  | .map label _ => p.scope.enter label p.value
  | _ => p.scope

def entry (p : Place) (name : String) : List Place :=
  match p.value with
  | .map _ entries => ((field? name entries).map (Place.mk p.inner)).toList
  | _ => []

def items (p : Place) : List Place :=
  match p.value with
  | .list _ items => items.map (Place.mk p.inner)
  | _ => []

/-- The places right below a place: the values that are read as trees to make the node at it. -/
def parts (p : Place) : List Place :=
  match p.value with
  | .list .. => p.items
  | .map _ entries =>
    match Kind.of entries with
    | .seq => (p.entry "items").flatMap items
    | .paren | .unary => p.entry "e"
    | .subSup => p.entry "e" ++ (p.entry "sub" ++ p.entry "sup").filter (!·.value.isNull)
    | .binary => p.entry "e1" ++ p.entry "e2"
    | .matrix => ((p.entry "rows").flatMap items).flatMap items
    | _ => []
  | _ => []

/-- `q` is a member of the collection at `p`, read or not. -/
def Inside (p q : Place) : Prop :=
  q ∈ p.items ∨ ∃ name, q ∈ p.entry name

/-- `q` is read as a tree when `p` is. -/
def Above : Place → Place → Prop :=
  Relation.ReflTransGen fun p q => q ∈ p.parts

variable {p q : Place}

theorem mem_entry {name : String} (h : q ∈ p.entry name) :
    ∃ label entries, p.value = .map label entries ∧ field? name entries = some q.value ∧
      q.scope = p.inner := by
  unfold entry at h
  split at h
  · rename_i label entries hvalue
    obtain ⟨value, hfield, rfl⟩ :
        ∃ value, field? name entries = some value ∧ ⟨p.inner, value⟩ = q := by
      simpa using h
    exact ⟨label, entries, hvalue, hfield, rfl⟩
  · cases h

theorem mem_items (h : q ∈ p.items) :
    ∃ label items, p.value = .list label items ∧ q.value ∈ items ∧ q.scope = p.inner := by
  unfold items at h
  split at h
  · rename_i label items hvalue
    obtain ⟨value, hmem, rfl⟩ := List.mem_map.mp h
    exact ⟨label, items, hvalue, hmem, rfl⟩
  · cases h

/-- The items of a sequence and the cells of a matrix are parts from further inside. -/
theorem inside_of_mem_parts (h : q ∈ p.parts) : Relation.TransGen Inside p q := by
  have hentry : ∀ {name}, q ∈ p.entry name → Relation.TransGen Inside p q :=
    fun hq => .single (.inr ⟨_, hq⟩)
  unfold parts at h
  split at h
  · exact .single (.inl h)
  · split at h
    · obtain ⟨list, hlist, hitem⟩ := List.mem_flatMap.mp h
      exact .tail (.single (.inr ⟨_, hlist⟩)) (.inl hitem)
    · exact hentry h
    · exact hentry h
    · obtain hbase | hscript := List.mem_append.mp h
      · exact hentry hbase
      · exact (List.mem_append.mp (List.mem_of_mem_filter hscript)).elim hentry hentry
    · exact (List.mem_append.mp h).elim hentry hentry
    · obtain ⟨row, hrow, hcell⟩ := List.mem_flatMap.mp h
      obtain ⟨rows, hrows, hitem⟩ := List.mem_flatMap.mp hrow
      exact .tail (.tail (.single (.inr ⟨_, hrows⟩)) (.inl hitem)) (.inl hcell)
    · cases h
  · cases h

theorem isNode_of_mem_parts (h : q ∈ p.parts) : p.value.isNode = false := by
  unfold parts at h
  split at h
  · rename_i hvalue
    rw [hvalue]
    rfl
  · rename_i hvalue
    rw [hvalue]
    rfl
  · cases h

theorem sizeOf_of_field? {name : String} {entries : List (Scalar × Value)} {value : Value}
    (h : field? name entries = some value) : sizeOf value < sizeOf entries := by
  induction entries with
  | nil => cases h
  | cons entry rest ih =>
    obtain ⟨key, v⟩ := entry
    rw [field?_cons] at h
    rw [List.cons.sizeOf_spec, Prod.mk.sizeOf_spec]
    split_ifs at h with hkey
    · cases h
      omega
    · have := ih h
      omega

theorem sizeOf_inside (h : Inside p q) : sizeOf q.value < sizeOf p.value := by
  obtain hitem | ⟨name, hentry⟩ := h
  · obtain ⟨label, items, hvalue, hmem, -⟩ := mem_items hitem
    have := List.sizeOf_lt_of_mem hmem
    rw [hvalue, Value.list.sizeOf_spec]
    omega
  · obtain ⟨label, entries, hvalue, hfield, -⟩ := mem_entry hentry
    have := sizeOf_of_field? hfield
    rw [hvalue, Value.map.sizeOf_spec]
    omega

theorem sizeOf_parts (h : q ∈ p.parts) : sizeOf q.value < sizeOf p.value := by
  have hinside := inside_of_mem_parts h
  clear h
  induction hinside with
  | single hinside => exact sizeOf_inside hinside
  | tail _ hinside ih => exact Nat.lt_trans (sizeOf_inside hinside) ih

/-- What holds of a place when it holds of its parts holds of every place. -/
theorem induction {motive : Place → Prop}
    (step : ∀ p, (∀ q ∈ p.parts, motive q) → motive p) (p : Place) : motive p :=
  step p fun q _ => induction step q
termination_by sizeOf p.value
decreasing_by exact sizeOf_parts ‹_›

theorem read_of_list {label : Option Nat} {items : List Value} (hp : p.value = .list label items) :
    p.read = do return .sequence (← readAll p.inner items) none := by
  unfold read inner
  rw [hp, readIn]

theorem read_of_map {label : Option Nat} {entries : List (Scalar × Value)}
    (hp : p.value = .map label entries) :
    p.read =
      match Kind.of entries with
      | .untyped => readUntyped (p.scope.alone p.value) entries
      | .text => readText entries
      | .seq => itemsField p.inner (separatorField entries) entries
      | .paren => do
        let body ← nodeField p.inner "paren" "e" entries
        let left ← delimiterField p.inner "lparen" entries
        let right ← delimiterField p.inner "rparen" entries
        return .parenthesized body left right
      | .subSup => do
        let base ← nodeField p.inner "subsup" "e" entries
        let sub ← scriptField p.inner "sub" entries
        let sup ← scriptField p.inner "sup" entries
        return .subSup base sub sup
      | .unary => do
        let operator ← operatorField p.inner "unary" entries
        let operand ← nodeField p.inner "unary" "e" entries
        return .unary operator operand
      | .binary => do
        let operator ← operatorField p.inner "binary" entries
        let left ← nodeField p.inner "binary" "e1" entries
        let right ← nodeField p.inner "binary" "e2" entries
        return .binary operator left right
      | .matrix => do
        let rows ← rowsField p.inner entries
        let left ← delimiterField p.inner "lparen" entries
        let right ← delimiterField p.inner "rparen" entries
        return .matrix rows left right
      | .unknown type => readUnknown (p.inner.alone type) := by
  unfold read inner Kind.of
  rw [hp, readIn]
  split <;> simp_all

end Place

/-- The tree at a place, by what the reader has found there. Each kind of value makes one kind of
node, and only nodes that are built already stand for themselves. -/
inductive Forms : Place → Value → Prop
  | built {p : Place} (h : p.value.isNode = true) : Forms p p.value
  | literal {p : Place} {s text} (hp : p.value = .scalar s)
    (h : readScalar s = .ok (.literal text)) : Forms p (.literal text)
  | list {p : Place} {label items nodes} (hp : p.value = .list label items)
    (h : readAll p.inner items = .ok nodes) : Forms p (.sequence nodes none)
  | symbol {p : Place} {label entries tag} (hp : p.value = .map label entries)
    (hkind : Kind.of entries = .untyped) (h : field? "symbol" entries = some (.str tag)) :
    Forms p (.symbol (some tag))
  | text {p : Place} {label entries content} (hp : p.value = .map label entries)
    (hkind : Kind.of entries = .text)
    (h : (field? "c" entries).or (field? "content" entries) = some (.str content)) :
    Forms p (.textRun content)
  | seq {p : Place} {label entries separator items inside nodes}
    (hp : p.value = .map label entries) (hkind : Kind.of entries = .seq)
    (hseparator : separatorField entries = .ok separator)
    (hitems : field? "items" entries = some (.list inside items))
    (h : readAll (p.inner.enter inside (.list inside items)) items = .ok nodes) :
    Forms p (.sequence nodes separator)
  | paren {p : Place} {label entries body left right} (hp : p.value = .map label entries)
    (hkind : Kind.of entries = .paren) (hbody : nodeField p.inner "paren" "e" entries = .ok body)
    (hleft : delimiterField p.inner "lparen" entries = .ok left)
    (hright : delimiterField p.inner "rparen" entries = .ok right) :
    Forms p (.parenthesized body left right)
  | subSup {p : Place} {label entries base sub sup} (hp : p.value = .map label entries)
    (hkind : Kind.of entries = .subSup) (hbase : nodeField p.inner "subsup" "e" entries = .ok base)
    (hsub : scriptField p.inner "sub" entries = .ok sub)
    (hsup : scriptField p.inner "sup" entries = .ok sup) : Forms p (.subSup base sub sup)
  | unary {p : Place} {label entries operator operand} (hp : p.value = .map label entries)
    (hkind : Kind.of entries = .unary)
    (hoperator : operatorField p.inner "unary" entries = .ok operator)
    (hoperand : nodeField p.inner "unary" "e" entries = .ok operand) :
    Forms p (.unary operator operand)
  | binary {p : Place} {label entries operator left right} (hp : p.value = .map label entries)
    (hkind : Kind.of entries = .binary)
    (hoperator : operatorField p.inner "binary" entries = .ok operator)
    (hleft : nodeField p.inner "binary" "e1" entries = .ok left)
    (hright : nodeField p.inner "binary" "e2" entries = .ok right) :
    Forms p (.binary operator left right)
  | matrix {p : Place} {label entries rows left right} (hp : p.value = .map label entries)
    (hkind : Kind.of entries = .matrix) (hrows : rowsField p.inner entries = .ok rows)
    (hleft : delimiterField p.inner "lparen" entries = .ok left)
    (hright : delimiterField p.inner "rparen" entries = .ok right) :
    Forms p (.matrix rows left right)

variable {scope : Scope} {entries : List (Scalar × Value)} {node : Value}

theorem literal_of_readScalar {s : Scalar} (h : readScalar s = .ok node) :
    ∃ text, node = .literal text := by
  cases s with
  | int n =>
    simp only [readScalar] at h
    split_ifs at h
    cases h
    exact ⟨_, rfl⟩
  | str text =>
    cases h
    exact ⟨_, rfl⟩
  | float x =>
    cases h
    exact ⟨_, rfl⟩
  | _ => cases h

theorem forms_of_read {p : Place} (h : p.read = .ok node) : Forms p node := by
  cases hp : p.value with
  | scalar s =>
    rw [Place.read, hp, readIn] at h
    obtain ⟨text, rfl⟩ := literal_of_readScalar h
    exact .literal hp h
  | list label items =>
    rw [Place.read_of_list hp] at h
    obtain ⟨nodes, hnodes, h⟩ := bind_eq_ok.mp h
    cases h
    exact .list hp hnodes
  | map label entries =>
    rw [Place.read_of_map hp] at h
    cases hkind : Kind.of entries with
    | untyped =>
      simp only [hkind, readUntyped] at h
      split at h
      · rename_i tag hsymbol
        cases h
        exact .symbol hp hkind hsymbol
      · cases h
      · cases h
    | text =>
      simp only [hkind, readText] at h
      split at h
      · rename_i content hcontent
        cases h
        exact .text hp hkind hcontent
      · cases h
    | seq =>
      simp only [hkind, itemsField_eq] at h
      split at h
      · cases h
      · rename_i inside items hitems
        simp only [bind_eq_ok] at h
        obtain ⟨separator, hseparator, nodes, hnodes, h⟩ := h
        cases h
        exact .seq hp hkind hseparator hitems hnodes
      · obtain ⟨_, -, h⟩ := bind_eq_ok.mp h
        cases h
      · cases h
    | paren =>
      simp only [hkind, bind_eq_ok] at h
      obtain ⟨body, hbody, left, hleft, right, hright, h⟩ := h
      cases h
      exact .paren hp hkind hbody hleft hright
    | subSup =>
      simp only [hkind, bind_eq_ok] at h
      obtain ⟨base, hbase, sub, hsub, sup, hsup, h⟩ := h
      cases h
      exact .subSup hp hkind hbase hsub hsup
    | unary =>
      simp only [hkind, bind_eq_ok] at h
      obtain ⟨operator, hoperator, operand, hoperand, h⟩ := h
      cases h
      exact .unary hp hkind hoperator hoperand
    | binary =>
      simp only [hkind, bind_eq_ok] at h
      obtain ⟨operator, hoperator, left, hleft, right, hright, h⟩ := h
      cases h
      exact .binary hp hkind hoperator hleft hright
    | matrix =>
      simp only [hkind, bind_eq_ok] at h
      obtain ⟨rows, hrows, left, hleft, right, hright, h⟩ := h
      cases h
      exact .matrix hp hkind hrows hleft hright
    | unknown type =>
      simp only [hkind, readUnknown] at h
      cases h
  | tuple items | set members | cycle label shape | rawText text =>
    rw [Place.read, hp] at h
    cases h
  | _ =>
    rw [Place.read, hp] at h
    cases h
    rw [← hp]
    exact .built (by rw [hp]; rfl)

theorem isNode_of_read {p : Place} (h : p.read = .ok node) : node.isNode = true := by
  cases forms_of_read h with
  | built hnode => exact hnode
  | _ => rfl

theorem readAll_eq_ok {items nodes : List Value} :
    readAll scope items = .ok nodes ↔
      List.Forall₂ (fun q c => q.read = .ok c) (items.map (Place.mk scope)) nodes := by
  induction items generalizing nodes with
  | nil =>
    rw [readAll]
    constructor
    · intro h
      cases h
      exact .nil
    · intro h
      cases h
      rfl
  | cons item items ih =>
    rw [readAll]
    simp only [bind_eq_ok, ih]
    constructor
    · rintro ⟨node, hnode, rest, hrest, h⟩
      cases h
      exact .cons hnode hrest
    · intro h
      cases h with
      | cons hnode hrest => exact ⟨_, hnode, _, hrest, rfl⟩

namespace Place

variable {p : Place} {label : Option Nat}

theorem entry_of_map (hp : p.value = .map label entries) (name : String) :
    p.entry name = ((field? name entries).map (Place.mk p.inner)).toList := by
  unfold entry
  rw [hp]

theorem items_of_list {items : List Value} (hp : p.value = .list label items) :
    p.items = items.map (Place.mk p.inner) := by
  unfold Place.items
  rw [hp]

def Lay (places : List Place) (nodes : List Value) : Prop :=
  List.Forall₂ (fun q c => q.read = .ok c) places nodes

theorem Lay.append {places others : List Place} {nodes rest : List Value} (h : Lay places nodes)
    (h' : Lay others rest) : Lay (places ++ others) (nodes ++ rest) :=
  List.rel_append h h'

theorem Lay.exists_place {places : List Place} {nodes : List Value} (h : Lay places nodes)
    (hmem : node ∈ nodes) : ∃ q ∈ places, q.read = .ok node := by
  induction h with
  | nil => cases hmem
  | cons hread _ ih =>
    obtain rfl | hmem := List.mem_cons.mp hmem
    · exact ⟨_, List.mem_cons_self, hread⟩
    · obtain ⟨q, hq, hread⟩ := ih hmem
      exact ⟨q, List.mem_cons_of_mem _ hq, hread⟩

theorem Lay.exists_node {places : List Place} {nodes : List Value} (h : Lay places nodes)
    (hmem : p ∈ places) : ∃ c ∈ nodes, p.read = .ok c := by
  induction h with
  | nil => cases hmem
  | cons hread _ ih =>
    obtain rfl | hmem := List.mem_cons.mp hmem
    · exact ⟨_, List.mem_cons_self, hread⟩
    · obtain ⟨c, hc, hread⟩ := ih hmem
      exact ⟨c, List.mem_cons_of_mem _ hc, hread⟩

theorem lay_items {items nodes : List Value} (hp : p.value = .list label items)
    (h : readAll p.inner items = .ok nodes) : Lay p.items nodes := by
  rw [items_of_list hp]
  exact readAll_eq_ok.mp h

theorem lay_entry {kind name : String} (hp : p.value = .map label entries)
    (h : nodeField p.inner kind name entries = .ok node) : Lay (p.entry name) [node] := by
  rw [nodeField_eq] at h
  rw [entry_of_map hp]
  split at h
  · cases h
  · rename_i value hfield
    rw [hfield]
    exact .cons h .nil

theorem lay_script {name : String} (hp : p.value = .map label entries)
    (h : scriptField p.inner name entries = .ok node) :
    Lay ((p.entry name).filter (!·.value.isNull)) ([node].filter (!·.isNull)) := by
  rw [scriptField_eq] at h
  rw [entry_of_map hp]
  split at h
  · rename_i hfield
    cases h
    rw [hfield]
    exact .nil
  · rename_i value hfield
    rw [hfield]
    split_ifs at h with hnull
    · cases h
      simp only [Option.map_some, Option.toList_some, List.filter_cons, hnull, Value.isNull_null]
      exact .nil
    · have hnode : node.isNull = false :=
        Value.isNull_of_isNode (isNode_of_read (p := ⟨p.inner, value⟩) h)
      simp only [Option.map_some, Option.toList_some, List.filter_cons, hnull, hnode]
      exact .cons h .nil

theorem lay_rows {items : List Value} {rows : List (Row Value)}
    (h : readRows scope items = .ok rows) :
    Lay ((items.map (Place.mk scope)).flatMap Place.items) (rows.flatMap Row.cells) ∧
      ∀ row ∈ rows, row.separator = none := by
  induction items generalizing rows with
  | nil =>
    rw [readRows] at h
    cases h
    exact ⟨.nil, nofun⟩
  | cons item items ih =>
    cases item with
    | list label cells =>
      rw [readRows] at h
      simp only [bind_eq_ok] at h
      obtain ⟨nodes, hnodes, rest, hrest, h⟩ := h
      cases h
      obtain ⟨hlay, hplain⟩ := ih hrest
      have hrow : Lay (Place.items ⟨scope, .list label cells⟩) nodes := lay_items rfl hnodes
      exact ⟨by simpa using hrow.append hlay, List.forall_mem_cons.mpr ⟨rfl, hplain⟩⟩
    | _ => cases h

theorem lay_matrix {rows : List (Row Value)} (hp : p.value = .map label entries)
    (h : rowsField p.inner entries = .ok rows) :
    Lay (((p.entry "rows").flatMap Place.items).flatMap Place.items) (rows.flatMap Row.cells) ∧
      ∀ row ∈ rows, row.separator = none := by
  rw [rowsField_eq] at h
  rw [entry_of_map hp]
  split at h
  · cases h
  · rename_i inside items hfield
    split_ifs at h
    rw [hfield]
    have hrows : Place.items ⟨p.inner, .list inside items⟩ =
        items.map (Place.mk (p.inner.enter inside (.list inside items))) := rfl
    simpa [hrows] using lay_rows h
  · split_ifs at h

theorem parts_of_list {items : List Value} (hp : p.value = .list label items) :
    p.parts = p.items := by
  unfold parts
  rw [hp]

theorem parts_of_map (hp : p.value = .map label entries) :
    p.parts =
      match Kind.of entries with
      | .seq => (p.entry "items").flatMap Place.items
      | .paren | .unary => p.entry "e"
      | .subSup => p.entry "e" ++ (p.entry "sub" ++ p.entry "sup").filter (!·.value.isNull)
      | .binary => p.entry "e1" ++ p.entry "e2"
      | .matrix => ((p.entry "rows").flatMap Place.items).flatMap Place.items
      | _ => [] := by
  unfold parts
  rw [hp]

/-- The children of the node at a place are the trees at its parts, in order. -/
theorem lay_parts (hplain : p.value.isNode = false) (h : p.read = .ok node) :
    Lay p.parts node.children := by
  cases forms_of_read h with
  | built hnode => simp [hplain] at hnode
  | literal hp _ =>
    unfold parts
    rw [hp]
    exact .nil
  | list hp hnodes =>
    rw [parts_of_list hp]
    exact lay_items hp hnodes
  | symbol hp hkind _ =>
    rw [parts_of_map hp, hkind]
    exact .nil
  | text hp hkind _ =>
    rw [parts_of_map hp, hkind]
    exact .nil
  | @seq label entries separator items inside nodes hp hkind _ hitems hnodes =>
    rw [parts_of_map hp, hkind, entry_of_map hp, hitems]
    have hlay : Lay (Place.items ⟨p.inner, .list inside items⟩) nodes := lay_items rfl hnodes
    simpa [Value.children] using hlay
  | paren hp hkind hbody _ _ =>
    rw [parts_of_map hp, hkind]
    exact lay_entry hp hbody
  | subSup hp hkind hbase hsub hsup =>
    rw [parts_of_map hp, hkind]
    have hscripts := (lay_script hp hsub).append (lay_script hp hsup)
    rw [← List.filter_append, ← List.filter_append] at hscripts
    exact (lay_entry hp hbase).append hscripts
  | unary hp hkind _ hoperand =>
    rw [parts_of_map hp, hkind]
    exact lay_entry hp hoperand
  | binary hp hkind _ hleft hright =>
    rw [parts_of_map hp, hkind]
    exact (lay_entry hp hleft).append (lay_entry hp hright)
  | matrix hp hkind hrows _ _ =>
    rw [parts_of_map hp, hkind]
    exact (lay_matrix hp hrows).1

end Place

end Layout
end FormulaTex
