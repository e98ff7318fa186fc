import FormulaTex.Proofs.Places
import Mathlib.Data.Option.Basic

/-!
# Documents read in pieces

Nodes that are built already stand for themselves, and so do operators. So some values of a document
may be read beforehand and put back as the nodes that they lay out, at whatever places that are read
as trees or taken for operators, and the document lays out the same tree, or has the same fault.
What a message names is never affected: the reader spells only values that it does not read.

A place is given by the indices that lead to it, of items in lists and of entries in mappings. A
collection that contains itself is one piece, since any part of it would be met again inside it.
-/

namespace FormulaTex

namespace Layout

/-- What the reader takes a value for. -/
inductive Role where
  | node
  | operator
  /-- The list of the items of a sequence, or of the cells of a row. -/
  | items
  | rows
deriving DecidableEq

/-- The role of an entry in a mapping of a kind. Other entries are looked at only. -/
def Kind.role? (kind : Kind) (name : String) : Option Role :=
  match kind, name with
  | .seq, "items" => some .items
  | .paren, "e" => some .node
  | .subSup, "e" => some .node
  | .subSup, "sub" => some .node
  | .subSup, "sup" => some .node
  | .unary, "op" => some .operator
  | .unary, "e" => some .node
  | .binary, "op" => some .operator
  | .binary, "e1" => some .node
  | .binary, "e2" => some .node
  | .matrix, "rows" => some .rows
  | _, _ => none

def Kind.keyRole? (kind : Kind) : Scalar → Option Role
  | .str name => kind.role? name
  | _ => none

namespace Role

def member? : Role → Option Role
  | node | items => some node
  | rows => some items
  | operator => none

/-- What a value lays out on its own, if it lays out anything: a node or an operator. -/
def built? (role : Role) (v : Value) : Option Value :=
  match role with
  | node => (read v).toOption
  | operator => if (readOperator v).isOperator then some (readOperator v) else none
  | items | rows => none

end Role

/-- A value that is chosen is built, and `inside` stands for one that is not chosen, or that lays
out nothing on its own. -/
def piece (chosen : List Nat → Bool) (role : Role) (v inside : Value) : Value :=
  if chosen [] then (role.built? v).getD inside else inside

mutual

/-- The value with all that is chosen in it built. Nothing is chosen inside a value that is
built. -/
def pieced (chosen : List Nat → Bool) (role : Role) : Value → Value
  | .list none items =>
    piece chosen role (.list none items) <|
      match role.member? with
      | some member => .list none (piecedItems chosen member 0 items)
      | none => .list none items
  | .map none entries =>
    piece chosen role (.map none entries) <|
      match role with
      | .node => .map none (piecedEntries chosen (Kind.of entries) 0 entries)
      | _ => .map none entries
  | v => piece chosen role v v

def piecedItems (chosen : List Nat → Bool) (role : Role) (index : Nat) : List Value → List Value
  | [] => []
  | item :: items =>
    pieced (fun path => chosen (index :: path)) role item ::
      piecedItems chosen role (index + 1) items

def piecedEntries (chosen : List Nat → Bool) (kind : Kind) (index : Nat) :
    List (Scalar × Value) → List (Scalar × Value)
  | [] => []
  | (key, item) :: entries =>
    let item :=
      match kind.keyRole? key with
      | some role => pieced (fun path => chosen (index :: path)) role item
      | none => item
    (key, item) :: piecedEntries chosen kind (index + 1) entries

end

/-- Whether the reader gets the same out of two values in a role. -/
def Role.Agree : Role → Value → Value → Prop
  | node, v, w => read v = read w ∧ v.isNull = w.isNull
  | operator, v, w => readOperator v = readOperator w
  | items, v, w =>
    v = w ∨ ∃ items items', v = .list none items ∧ w = .list none items' ∧
      readAll [] items = readAll [] items'
  | rows, v, w =>
    v = w ∨ ∃ rows rows', v = .list none rows ∧ w = .list none rows' ∧
      rows.all isList = rows'.all isList ∧ readRows [] rows = readRows [] rows'

theorem Role.Agree.refl (role : Role) (v : Value) : role.Agree v v := by
  cases role with
  | node => exact ⟨rfl, rfl⟩
  | operator => rfl
  | items => exact .inl rfl
  | rows => exact .inl rfl

theorem read_of_isNode {v : Value} (h : v.isNode = true) : read v = .ok v := by
  cases v <;> first | rfl | cases h

theorem isNull_of_read {v node : Value} (h : read v = .ok node) : v.isNull = false := by
  cases hnull : v.isNull with
  | false => rfl
  | true =>
    rw [Value.eq_null_of_isNull hnull] at h
    cases h

theorem agree_built {role : Role} {v built : Value} (h : role.built? v = some built) :
    role.Agree built v := by
  cases role with
  | node =>
    have hread : read v = .ok built := by
      cases hv : read v with
      | ok node =>
        simp only [Role.built?, hv, Except.toOption, Option.some.injEq] at h
        rw [h]
      | error fault => simp [Role.built?, hv, Except.toOption] at h
    have hnode := isNode_of_read (p := .root v) hread
    constructor
    · rw [read_of_isNode hnode, hread]
    · rw [Value.isNull_of_isNode hnode, isNull_of_read hread]
  | operator =>
    simp only [Role.built?, Option.ite_none_right_eq_some, Option.some.injEq] at h
    obtain ⟨hoperator, rfl⟩ := h
    cases hv : readOperator v <;> simp_all [Value.isOperator, Role.Agree, readOperator]
  | items => cases h
  | rows => cases h

theorem agree_piece {chosen : List Nat → Bool} {role : Role} {v inside : Value}
    (h : role.Agree inside v) : role.Agree (piece chosen role v inside) v := by
  unfold piece
  split_ifs
  · cases hbuilt : role.built? v with
    | none => exact h
    | some built => exact agree_built hbuilt
  · exact h

theorem readAll_congr {items items' : List Value}
    (h : List.Forall₂ Role.node.Agree items items') : readAll [] items = readAll [] items' := by
  induction h with
  | nil => rfl
  | cons hitem _ ih =>
    have hread : readIn [] _ = readIn [] _ := hitem.1
    rw [readAll, readAll, hread, ih]

theorem readRows_congr {rows rows' : List Value}
    (h : List.Forall₂ Role.items.Agree rows rows') :
    rows.all isList = rows'.all isList ∧ readRows [] rows = readRows [] rows' := by
  induction h with
  | nil => exact ⟨rfl, rfl⟩
  | @cons row row' _ _ hrow _ ih =>
    obtain rfl | ⟨cells, cells', rfl, rfl, hcells⟩ := hrow
    · refine ⟨by rw [List.all_cons, List.all_cons, ih.1], ?_⟩
      cases row <;> simp only [readRows, ih.2]
    · refine ⟨by rw [List.all_cons, List.all_cons, ih.1]; rfl, ?_⟩
      rw [readRows, readRows, ih.2]
      simp only [Scope.enter, hcells]

theorem forall₂_piecedItems {role : Role} {items : List Value}
    (h : ∀ item ∈ items, ∀ chosen, role.Agree (pieced chosen role item) item)
    (chosen : List Nat → Bool) (index : Nat) :
    List.Forall₂ role.Agree (piecedItems chosen role index items) items := by
  induction items generalizing index with
  | nil => exact .nil
  | cons item items ih =>
    rw [List.forall_mem_cons] at h
    exact .cons (h.1 _) (ih h.2 (index + 1))

/-- Whether the reader gets the same out of two mappings of a kind. Entries without a role are the
same, and a mapping of no kind with parts is the same as a whole, since a message may spell it. -/
structure Kind.Agree (kind : Kind) (entries entries' : List (Scalar × Value)) : Prop where
  whole : (∀ name, kind.role? name = none) → entries = entries'
  kept : ∀ name, kind.role? name = none → field? name entries = field? name entries'
  role : ∀ name role, kind.role? name = some role →
    Option.Rel role.Agree (field? name entries) (field? name entries')

section

variable {kind : Kind} {entries entries' : List (Scalar × Value)}

theorem Kind.Agree.cons (h : kind.Agree entries entries') (key : Scalar) {item item' : Value}
    (hitem : match kind.keyRole? key with
      | some role => role.Agree item item'
      | none => item = item') :
    kind.Agree ((key, item) :: entries) ((key, item') :: entries') where
  whole hnone := by
    have hkey : kind.keyRole? key = none := by
      cases key with
      | str name => exact hnone name
      | _ => rfl
    rw [hkey] at hitem
    rw [hitem, h.whole hnone]
  kept name hname := by
    rw [field?_cons, field?_cons, h.kept name hname]
    split_ifs with hkey
    · subst hkey
      rw [Kind.keyRole?, hname] at hitem
      rw [hitem]
    · rfl
  role name role hname := by
    rw [field?_cons, field?_cons]
    split_ifs with hkey
    · subst hkey
      rw [Kind.keyRole?, hname] at hitem
      exact .some hitem
    · exact h.role name role hname

theorem agree_piecedEntries (h : ∀ entry ∈ entries, ∀ chosen (role : Role),
      role.Agree (pieced chosen role entry.2) entry.2)
    (chosen : List Nat → Bool) (kind : Kind) (index : Nat) :
    kind.Agree (piecedEntries chosen kind index entries) entries := by
  induction entries generalizing index with
  | nil => exact ⟨fun _ => rfl, fun _ _ => rfl, fun _ _ _ => .none⟩
  | cons entry rest ih =>
    obtain ⟨key, item⟩ := entry
    rw [List.forall_mem_cons] at h
    refine (ih h.2 (index + 1)).cons key ?_
    cases kind.keyRole? key with
    | some role => exact h.1 _ role
    | none => rfl

theorem nodeField_congr (h : kind.Agree entries entries') (word name : String)
    (hname : kind.role? name = some .node) :
    nodeField [] word name entries = nodeField [] word name entries' := by
  have hfield := h.role name .node hname
  rw [nodeField_eq, nodeField_eq]
  generalize field? name entries = field, field? name entries' = field' at hfield
  cases hfield with
  | none => rfl
  | some hread => exact hread.1

theorem scriptField_congr (h : kind.Agree entries entries') (name : String)
    (hname : kind.role? name = some .node) :
    scriptField [] name entries = scriptField [] name entries' := by
  have hfield := h.role name .node hname
  rw [scriptField_eq, scriptField_eq]
  generalize field? name entries = field, field? name entries' = field' at hfield
  cases hfield with
  | none => rfl
  | some hread =>
    have hsame : readIn [] _ = readIn [] _ := hread.1
    simp only [hread.2, hsame]

theorem operatorField_congr (h : kind.Agree entries entries') (word : String)
    (hname : kind.role? "op" = some .operator) :
    operatorField [] word entries = operatorField [] word entries' := by
  have hfield := h.role "op" .operator hname
  unfold operatorField
  generalize field? "op" entries = field, field? "op" entries' = field' at hfield
  cases hfield with
  | none => rfl
  | some hread => exact congrArg Except.ok hread

theorem delimiterField_congr (h : kind.Agree entries entries') (name : String)
    (hname : kind.role? name = none) :
    delimiterField [] name entries = delimiterField [] name entries' := by
  unfold delimiterField
  rw [h.kept name hname]

theorem itemsField_congr (h : kind.Agree entries entries')
    (hseparator : kind.role? "separator" = none) (hname : kind.role? "items" = some .items) :
    itemsField [] (separatorField entries) entries =
      itemsField [] (separatorField entries') entries' := by
  have hsame : separatorField entries = separatorField entries' := by
    unfold separatorField
    rw [h.kept "separator" hseparator]
  have hfield := h.role "items" .items hname
  rw [itemsField_eq, itemsField_eq, hsame]
  generalize field? "items" entries = field, field? "items" entries' = field' at hfield
  cases hfield with
  | none => rfl
  | some hitems =>
    obtain rfl | ⟨items, items', rfl, rfl, hread⟩ := hitems
    · rfl
    · simp only [Scope.enter, hread]

theorem rowsField_congr (h : kind.Agree entries entries')
    (hname : kind.role? "rows" = some .rows) :
    rowsField [] entries = rowsField [] entries' := by
  have hfield := h.role "rows" .rows hname
  rw [rowsField_eq, rowsField_eq]
  generalize field? "rows" entries = field, field? "rows" entries' = field' at hfield
  cases hfield with
  | none => rfl
  | some hrows =>
    obtain rfl | ⟨rows, rows', rfl, rfl, hlists, hread⟩ := hrows
    · rfl
    · simp only [Scope.enter, hlists, hread]

theorem Kind.role?_type (kind : Kind) : kind.role? "type" = none := by
  cases kind <;> rfl

/-- No kind has a part by the name of its type, so both mappings are of the same kind. -/
theorem Kind.Agree.of_eq (h : kind.Agree entries entries') :
    Kind.of entries = Kind.of entries' := by
  unfold Kind.of
  rw [h.kept "type" kind.role?_type]

theorem read_map (entries : List (Scalar × Value)) :
    read (.map none entries) =
      match Kind.of entries with
      | .untyped => readUntyped (.map none entries) entries
      | .text => readText entries
      | .seq => itemsField [] (separatorField entries) entries
      | .paren => do
        let body ← nodeField [] "paren" "e" entries
        let left ← delimiterField [] "lparen" entries
        let right ← delimiterField [] "rparen" entries
        return .parenthesized body left right
      | .subSup => do
        let base ← nodeField [] "subsup" "e" entries
        let sub ← scriptField [] "sub" entries
        let sup ← scriptField [] "sup" entries
        return .subSup base sub sup
      | .unary => do
        let operator ← operatorField [] "unary" entries
        let operand ← nodeField [] "unary" "e" entries
        return .unary operator operand
      | .binary => do
        let operator ← operatorField [] "binary" entries
        let left ← nodeField [] "binary" "e1" entries
        let right ← nodeField [] "binary" "e2" entries
        return .binary operator left right
      | .matrix => do
        let rows ← rowsField [] entries
        let left ← delimiterField [] "lparen" entries
        let right ← delimiterField [] "rparen" entries
        return .matrix rows left right
      | .unknown type => readUnknown type :=
  Place.read_of_map (p := .root (.map none entries)) rfl

theorem read_map_congr (h : (Kind.of entries').Agree entries entries') :
    read (.map none entries) = read (.map none entries') := by
  have hkind := h.of_eq
  cases hof : Kind.of entries' with
  | untyped | text | unknown type =>
    rw [hof] at h
    rw [h.whole fun _ => rfl]
  | seq =>
    rw [read_map, read_map, hkind, hof]
    rw [hof] at h
    exact itemsField_congr h rfl rfl
  | paren =>
    rw [read_map, read_map, hkind, hof]
    rw [hof] at h
    simp only [nodeField_congr h "paren" "e" rfl, delimiterField_congr h "lparen" rfl,
      delimiterField_congr h "rparen" rfl]
  | subSup =>
    rw [read_map, read_map, hkind, hof]
    rw [hof] at h
    simp only [nodeField_congr h "subsup" "e" rfl, scriptField_congr h "sub" rfl,
      scriptField_congr h "sup" rfl]
  | unary =>
    rw [read_map, read_map, hkind, hof]
    rw [hof] at h
    simp only [operatorField_congr h "unary" rfl, nodeField_congr h "unary" "e" rfl]
  | binary =>
    rw [read_map, read_map, hkind, hof]
    rw [hof] at h
    simp only [operatorField_congr h "binary" rfl, nodeField_congr h "binary" "e1" rfl,
      nodeField_congr h "binary" "e2" rfl]
  | matrix =>
    rw [read_map, read_map, hkind, hof]
    rw [hof] at h
    simp only [rowsField_congr h rfl, delimiterField_congr h "lparen" rfl,
      delimiterField_congr h "rparen" rfl]

end

theorem sizeOf_of_mem {entry : Scalar × Value} {entries : List (Scalar × Value)}
    (h : entry ∈ entries) : sizeOf entry.2 < sizeOf entries := by
  have hentry := List.sizeOf_lt_of_mem h
  obtain ⟨key, item⟩ := entry
  rw [Prod.mk.sizeOf_spec] at hentry
  dsimp only
  omega

/-- The reader cannot tell a value from the same value with pieces of it built. -/
theorem agree_pieced (v : Value) (chosen : List Nat → Bool) (role : Role) :
    role.Agree (pieced chosen role v) v := by
  have hself : role.Agree (piece chosen role v v) v := agree_piece (.refl role v)
  cases v with
  | list label items =>
    cases label with
    | some label => exact hself
    | none =>
      have hitems : ∀ member : Role,
          List.Forall₂ member.Agree (piecedItems chosen member 0 items) items :=
        fun member => forall₂_piecedItems
          (fun item hitem chosen => agree_pieced item chosen member) chosen 0
      apply agree_piece
      cases role with
      | node =>
        refine ⟨?_, rfl⟩
        simp only [Role.member?, read, readIn, Scope.enter, readAll_congr (hitems .node)]
      | operator => rfl
      | items => exact .inr ⟨_, _, rfl, rfl, readAll_congr (hitems .node)⟩
      | rows =>
        obtain ⟨hlists, hread⟩ := readRows_congr (hitems .items)
        exact .inr ⟨_, _, rfl, rfl, hlists, hread⟩
  | map label entries =>
    cases label with
    | some label => exact hself
    | none =>
      apply agree_piece
      cases role with
      | node =>
        have hitems : ∀ entry ∈ entries, ∀ chosen (role : Role),
            role.Agree (pieced chosen role entry.2) entry.2 :=
          fun entry hentry chosen role => agree_pieced entry.2 chosen role
        have hentries := agree_piecedEntries hitems chosen (Kind.of entries) 0
        exact ⟨read_map_congr hentries, rfl⟩
      | operator => rfl
      | items => exact .inl rfl
      | rows => exact .inl rfl
  | _ => exact hself
termination_by sizeOf v
decreasing_by
  · have := List.sizeOf_lt_of_mem hitem
    rw [Value.list.sizeOf_spec]
    omega
  · have := sizeOf_of_mem hentry
    rw [Value.map.sizeOf_spec]
    omega

/-- A document lays out the same tree, or has the same fault, whatever is built in it beforehand. -/
theorem read_pieced (chosen : List Nat → Bool) (document : Value) :
    read (pieced chosen .node document) = read document :=
  (agree_pieced document chosen .node).1

/-- The second operand is chosen and cannot be built, for the truth value in it. -/
example :
    let document := Value.map none [(.str "type", .str "binary"), (.str "op", .str "plus"),
      (.str "e1", .list none [.str "x", .map none [(.str "symbol", .str "pi")]]),
      (.str "e2", .list none [.str "y", .scalar (.bool true)])]
    let chosen := [[1], [2, 1], [3], [3, 0]].contains
    pieced chosen .node document = .map none
        [(.str "type", .str "binary"), (.str "op", .symbol (some "plus")),
          (.str "e1", .list none [.str "x", .symbol (some "pi")]),
          (.str "e2", .list none [.literal "y", .scalar (.bool true)])] ∧
      read (pieced chosen .node document) = .error (.truthValue true) :=
  ⟨rfl, rfl⟩

end Layout
end FormulaTex
