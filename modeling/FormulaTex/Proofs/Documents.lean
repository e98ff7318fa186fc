import FormulaTex.Proofs.Places
import FormulaTex.Proofs.Trees

/-!
# Documents of trees

Every complete tree has a document, and mostly many. A text run has a short and a long name for its
content, delimiters and operators may be bare tags, a field that is not needed is left out or null,
and the entries of a mapping may come in any order, with others among them that the kind of node
does not have. The reader gives the same tree back for all of them.
-/

namespace FormulaTex

namespace Layout

/-- A field that is not there, or null. -/
def IsLeftOut (field : Option Value) : Prop :=
  field.getD .null = .null

inductive LaysOutSeparator : Option Value → Option String → Prop
  | leftOut {field} (h : IsLeftOut field) : LaysOutSeparator field none
  | text (separator : String) : LaysOutSeparator (some (.str separator)) (some separator)

inductive LaysOutDelimiter : Option Value → Option Tag → Prop
  | leftOut {field} (h : IsLeftOut field) : LaysOutDelimiter field none
  | tag (tag : String) : LaysOutDelimiter (some (.str tag)) (some (some tag))
  | symbol {entries tag} (h : field? "symbol" entries = some (.str tag)) :
    LaysOutDelimiter (some (.map none entries)) (some (some tag))

inductive LaysOutOperator : Value → Value → Prop
  | tag (tag : String) : LaysOutOperator (.str tag) (.symbol (some tag))
  | symbol {entries tag} (h : field? "symbol" entries = some (.str tag)) :
    LaysOutOperator (.map none entries) (.symbol (some tag))
  | raw {entries text} (hsymbol : field? "symbol" entries = none)
    (h : field? "raw" entries = some (.str text)) :
    LaysOutOperator (.map none entries) (.rawText text)

mutual

/-- The document lays out the tree. -/
inductive LaysOut : Value → Value → Prop
  | literal (text : String) : LaysOut (.str text) (.literal text)
  | symbol {entries tag} (htype : IsLeftOut (field? "type" entries))
    (h : field? "symbol" entries = some (.str tag)) :
    LaysOut (.map none entries) (.symbol (some tag))
  | list {documents items} (h : LaysOutAll documents items) :
    LaysOut (.list none documents) (.sequence items none)
  | seq {entries documents items separator}
    (htype : field? "type" entries = some (.str "seq"))
    (hitems : field? "items" entries = some (.list none documents))
    (hseparator : LaysOutSeparator (field? "separator" entries) separator)
    (h : LaysOutAll documents items) : LaysOut (.map none entries) (.sequence items separator)
  | text {entries content} (htype : field? "type" entries = some (.str "text"))
    (h : field? "c" entries = some (.str content)) :
    LaysOut (.map none entries) (.textRun content)
  | longText {entries content} (htype : field? "type" entries = some (.str "text"))
    (hshort : field? "c" entries = none) (h : field? "content" entries = some (.str content)) :
    LaysOut (.map none entries) (.textRun content)
  | paren {entries document inner left right} (htype : field? "type" entries = some (.str "paren"))
    (hinner : field? "e" entries = some document) (h : LaysOut document inner)
    (hleft : LaysOutDelimiter (field? "lparen" entries) left)
    (hright : LaysOutDelimiter (field? "rparen" entries) right) :
    LaysOut (.map none entries) (.parenthesized inner left right)
  | subSup {entries document base sub sup} (htype : field? "type" entries = some (.str "subsup"))
    (hbase : field? "e" entries = some document) (h : LaysOut document base)
    (hsub : LaysOutScript (field? "sub" entries) sub)
    (hsup : LaysOutScript (field? "sup" entries) sup) :
    LaysOut (.map none entries) (.subSup base sub sup)
  | unary {entries value document operator operand}
    (htype : field? "type" entries = some (.str "unary"))
    (hvalue : field? "op" entries = some value) (hoperator : LaysOutOperator value operator)
    (hoperand : field? "e" entries = some document) (h : LaysOut document operand) :
    LaysOut (.map none entries) (.unary operator operand)
  | binary {entries value first second operator left right}
    (htype : field? "type" entries = some (.str "binary"))
    (hvalue : field? "op" entries = some value) (hoperator : LaysOutOperator value operator)
    (hfirst : field? "e1" entries = some first) (hleft : LaysOut first left)
    (hsecond : field? "e2" entries = some second) (hright : LaysOut second right) :
    LaysOut (.map none entries) (.binary operator left right)
  | matrix {entries documents rows left right}
    (htype : field? "type" entries = some (.str "matrix"))
    (hrows : field? "rows" entries = some (.list none documents))
    (h : LaysOutRows documents rows)
    (hleft : LaysOutDelimiter (field? "lparen" entries) left)
    (hright : LaysOutDelimiter (field? "rparen" entries) right) :
    LaysOut (.map none entries) (.matrix rows left right)

inductive LaysOutAll : List Value → List Value → Prop
  | nil : LaysOutAll [] []
  | cons {document item documents items} (h : LaysOut document item)
    (hrest : LaysOutAll documents items) : LaysOutAll (document :: documents) (item :: items)

inductive LaysOutScript : Option Value → Value → Prop
  | leftOut {field} (h : IsLeftOut field) : LaysOutScript field .null
  | node {document script} (h : LaysOut document script) : LaysOutScript (some document) script

inductive LaysOutRows : List Value → List (Row Value) → Prop
  | nil : LaysOutRows [] []
  | cons {documents cells others rows} (h : LaysOutAll documents cells)
    (hrest : LaysOutRows others rows) :
    LaysOutRows (.list none documents :: others) (⟨cells, none⟩ :: rows)

end

def writeDelimiter : Option Tag → Value
  | some (some tag) => .str tag
  | _ => .null

def writeOperator : Value → Value
  | .symbol (some tag) => .str tag
  | .rawText text => .map none [(.str "raw", .str text)]
  | _ => .null

def typed (type : String) (fields : List (String × Value)) : Value :=
  .map none ((.str "type", .str type) :: fields.map fun field => (.str field.1, field.2))

mutual

/-- A document of a tree, with every field that its kinds of nodes have. -/
def write : Value → Value
  | .literal text => .str text
  | .symbol (some tag) => .map none [(.str "symbol", .str tag)]
  | .sequence items none => .list none (writeAll items)
  | .sequence items (some separator) =>
    typed "seq" [("items", .list none (writeAll items)), ("separator", .str separator)]
  | .textRun content => typed "text" [("c", .str content)]
  | .parenthesized inner left right =>
    typed "paren" [("e", write inner), ("lparen", writeDelimiter left),
      ("rparen", writeDelimiter right)]
  | .subSup base sub sup =>
    typed "subsup" [("e", write base), ("sub", write sub), ("sup", write sup)]
  | .unary operator operand =>
    typed "unary" [("op", writeOperator operator), ("e", write operand)]
  | .binary operator left right =>
    typed "binary" [("op", writeOperator operator), ("e1", write left), ("e2", write right)]
  | .matrix rows left right =>
    typed "matrix" [("rows", .list none (writeRows rows)), ("lparen", writeDelimiter left),
      ("rparen", writeDelimiter right)]
  | _ => .null

def writeAll : List Value → List Value
  | [] => []
  | item :: items => write item :: writeAll items

def writeRows : List (Row Value) → List Value
  | [] => []
  | ⟨cells, _⟩ :: rows => .list none (writeAll cells) :: writeRows rows

end

theorem laysOutDelimiter_write {delimiter : Option Tag} (h : delimiter ≠ some none) :
    LaysOutDelimiter (some (writeDelimiter delimiter)) delimiter := by
  match delimiter with
  | none => exact .leftOut rfl
  | some none => exact absurd rfl h
  | some (some tag) => exact .tag tag

theorem laysOutOperator_write {operator : Value} {arity : Arity}
    (h : operator.IsOperatorUnless (fun _ _ => False) arity) :
    LaysOutOperator (writeOperator operator) operator := by
  cases operator with
  | symbol tag =>
    cases tag with
    | none => cases h
    | some tag => exact .tag tag
  | rawText text => exact .raw rfl rfl
  | _ => exact h.elim

mutual

theorem laysOut_write : (tree : Value) → (tree.IsTree fun _ _ => False) → LaysOut (write tree) tree
  | .literal text, _ => .literal text
  | .symbol (some tag), _ => .symbol rfl rfl
  | .sequence items none, h => .list (laysOutAll_write items h)
  | .sequence items (some separator), h =>
    .seq rfl rfl (.text separator) (laysOutAll_write items h)
  | .textRun content, _ => .text rfl rfl
  | .parenthesized inner _ _, h =>
    .paren rfl rfl (laysOut_write inner h.1) (laysOutDelimiter_write h.2.1)
      (laysOutDelimiter_write h.2.2)
  | .subSup base sub sup, h =>
    .subSup rfl rfl (laysOut_write base h.1) (laysOutScript_write sub h.2.1)
      (laysOutScript_write sup h.2.2)
  | .unary _ operand, h =>
    .unary rfl rfl (laysOutOperator_write h.1) rfl (laysOut_write operand h.2)
  | .binary _ left right, h =>
    .binary rfl rfl (laysOutOperator_write h.1) rfl (laysOut_write left h.2.1) rfl
      (laysOut_write right h.2.2)
  | .matrix rows _ _, h =>
    .matrix rfl rfl (laysOutRows_write rows h.1) (laysOutDelimiter_write h.2.1)
      (laysOutDelimiter_write h.2.2)

theorem laysOutAll_write :
    (items : List Value) → (Value.AreTrees (fun _ _ => False) items) →
      LaysOutAll (writeAll items) items
  | [], _ => .nil
  | item :: items, h => .cons (laysOut_write item h.1) (laysOutAll_write items h.2)

theorem laysOutScript_write :
    (script : Value) → (script = .null ∨ script.IsTree fun _ _ => False) →
      LaysOutScript (some (write script)) script
  | script, .inl h => by
    subst h
    exact .leftOut rfl
  | script, .inr h => .node (laysOut_write script h)

theorem laysOutRows_write :
    (rows : List (Row Value)) → (Value.AreTreeRows (fun _ _ => False) rows) →
      LaysOutRows (writeRows rows) rows
  | [], _ => .nil
  | ⟨cells, separator⟩ :: rows, h => by
    obtain ⟨⟨hcells, hplain⟩, hrest⟩ := h
    subst hplain
    exact .cons (laysOutAll_write cells hcells) (laysOutRows_write rows hrest)

end

variable {entries : List (Scalar × Value)}

theorem of_isLeftOut {field : Option Value} (h : IsLeftOut field) :
    field = none ∨ field = some .null := by
  cases field with
  | none => exact .inl rfl
  | some value => exact .inr (congrArg some h)

theorem separatorField_of_laysOut {separator : Option String}
    (h : LaysOutSeparator (field? "separator" entries) separator) :
    separatorField entries = .ok separator := by
  unfold separatorField
  generalize field? "separator" entries = field at h ⊢
  cases h with
  | leftOut h => obtain rfl | rfl := of_isLeftOut h <;> rfl
  | text separator => rfl

theorem delimiterField_of_laysOut {name : String} {delimiter : Option Tag}
    (h : LaysOutDelimiter (field? name entries) delimiter) :
    delimiterField [] name entries = .ok delimiter := by
  rw [delimiterField]
  generalize field? name entries = field at h ⊢
  cases h with
  | leftOut h =>
    rw [h]
    rfl
  | tag tag => rfl
  | symbol h =>
    simp only [Option.getD_some, Scope.alone_nil, readDelimiter, symbolEntry?, h]

theorem operatorField_of_laysOut {kind : String} {value operator : Value}
    (hvalue : field? "op" entries = some value) (h : LaysOutOperator value operator) :
    operatorField [] kind entries = .ok operator := by
  rw [operatorField, hvalue]
  cases h with
  | tag tag => rfl
  | symbol h => simp only [Scope.alone_nil, readOperator, symbolEntry?, h]
  | raw hsymbol h => simp only [Scope.alone_nil, readOperator, symbolEntry?, rawEntry?, hsymbol, h]

theorem nodeField_of_read {kind name : String} {document node : Value}
    (hfield : field? name entries = some document) (h : read document = .ok node) :
    nodeField [] kind name entries = .ok node := by
  rw [nodeField_eq, hfield]
  exact h

theorem ne_null_of_laysOut {document tree : Value} (h : LaysOut document tree) :
    document.isNull = false := by
  cases h <;> rfl

theorem isList_of_laysOutRows {documents : List Value} {rows : List (Row Value)}
    (h : LaysOutRows documents rows) : documents.all isList = true := by
  induction documents generalizing rows with
  | nil => rfl
  | cons document documents ih =>
    cases h with
    | cons _ hrest => exact ih hrest

theorem kind_of_type {type : String} (htype : field? "type" entries = some (.str type)) :
    Kind.of entries = Kind.of [(.str "type", .str type)] := by
  rw [Kind.of, htype]
  rfl

mutual

/-- The reader follows the layout, whichever of the documents of a tree it is given. -/
theorem read_of_laysOut {document tree : Value} :
    LaysOut document tree → read document = .ok tree
  | .literal text => rfl
  | @LaysOut.symbol entries tag htype h => by
    have hkind : Kind.of entries = .untyped := by
      rw [Kind.of, htype]
    refine (Place.read_of_map (p := Place.root (.map none entries)) rfl).trans ?_
    simp only [hkind, readUntyped, h]
  | .list h => by
    rw [read, readIn, Scope.enter, readAll_of_laysOut h]
    rfl
  | @LaysOut.seq entries documents items separator htype hitems hseparator h => by
    have hkind : Kind.of entries = .seq := kind_of_type htype
    refine (Place.read_of_map (p := Place.root (.map none entries)) rfl).trans ?_
    simp only [hkind, itemsField_eq, hitems, bind_eq_ok]
    exact ⟨separator, separatorField_of_laysOut hseparator, items, readAll_of_laysOut h, rfl⟩
  | @LaysOut.text entries content htype h => by
    have hkind : Kind.of entries = .text := kind_of_type htype
    refine (Place.read_of_map (p := Place.root (.map none entries)) rfl).trans ?_
    simp only [hkind, readText, h, Option.some_or]
  | @LaysOut.longText entries content htype hshort h => by
    have hkind : Kind.of entries = .text := kind_of_type htype
    refine (Place.read_of_map (p := Place.root (.map none entries)) rfl).trans ?_
    simp only [hkind, readText, hshort, h, Option.none_or]
  | @LaysOut.paren entries document inner left right htype hinner h hleft hright => by
    have hkind : Kind.of entries = .paren := kind_of_type htype
    refine (Place.read_of_map (p := Place.root (.map none entries)) rfl).trans ?_
    simp only [hkind, bind_eq_ok]
    exact ⟨inner, nodeField_of_read hinner (read_of_laysOut h), left,
      delimiterField_of_laysOut hleft, right, delimiterField_of_laysOut hright, rfl⟩
  | @LaysOut.subSup entries document base sub sup htype hbase h hsub hsup => by
    have hkind : Kind.of entries = .subSup := kind_of_type htype
    refine (Place.read_of_map (p := Place.root (.map none entries)) rfl).trans ?_
    simp only [hkind, bind_eq_ok]
    exact ⟨base, nodeField_of_read hbase (read_of_laysOut h), sub,
      scriptField_of_laysOut hsub rfl, sup, scriptField_of_laysOut hsup rfl, rfl⟩
  | @LaysOut.unary entries value document operator operand htype hvalue hoperator hoperand h => by
    have hkind : Kind.of entries = .unary := kind_of_type htype
    refine (Place.read_of_map (p := Place.root (.map none entries)) rfl).trans ?_
    simp only [hkind, bind_eq_ok]
    exact ⟨operator, operatorField_of_laysOut hvalue hoperator, operand,
      nodeField_of_read hoperand (read_of_laysOut h), rfl⟩
  | @LaysOut.binary entries value first second operator left right htype hvalue hoperator hfirst
      hleft hsecond hright => by
    have hkind : Kind.of entries = .binary := kind_of_type htype
    refine (Place.read_of_map (p := Place.root (.map none entries)) rfl).trans ?_
    simp only [hkind, bind_eq_ok]
    exact ⟨operator, operatorField_of_laysOut hvalue hoperator, left,
      nodeField_of_read hfirst (read_of_laysOut hleft), right,
      nodeField_of_read hsecond (read_of_laysOut hright), rfl⟩
  | @LaysOut.matrix entries documents rows left right htype hrows h hleft hright => by
    have hkind : Kind.of entries = .matrix := kind_of_type htype
    refine (Place.read_of_map (p := Place.root (.map none entries)) rfl).trans ?_
    simp only [hkind, rowsField_eq, hrows, isList_of_laysOutRows h, if_true, bind_eq_ok]
    exact ⟨rows, readRows_of_laysOut h, left, delimiterField_of_laysOut hleft, right,
      delimiterField_of_laysOut hright, rfl⟩

theorem readAll_of_laysOut {documents items : List Value} :
    LaysOutAll documents items → readAll [] documents = .ok items
  | .nil => rfl
  | .cons h hrest => by
    rw [readAll]
    exact bind_eq_ok.mpr ⟨_, read_of_laysOut h, bind_eq_ok.mpr ⟨_, readAll_of_laysOut hrest, rfl⟩⟩

theorem scriptField_of_laysOut {field : Option Value} {script : Value} :
    LaysOutScript field script → ∀ {name entries}, field? name entries = field →
      scriptField [] name entries = .ok script
  | .leftOut h, name, entries, hfield => by
    rw [scriptField_eq, hfield]
    obtain rfl | rfl := of_isLeftOut h <;> rfl
  | .node h, name, entries, hfield => by
    rw [scriptField_eq, hfield]
    simp only [ne_null_of_laysOut h]
    exact read_of_laysOut h

theorem readRows_of_laysOut {documents : List Value} {rows : List (Row Value)} :
    LaysOutRows documents rows → readRows [] documents = .ok rows
  | .nil => rfl
  | .cons h hrest => by
    rw [readRows]
    exact bind_eq_ok.mpr
      ⟨_, readAll_of_laysOut h, bind_eq_ok.mpr ⟨_, readRows_of_laysOut hrest, rfl⟩⟩

end

/-- Every complete tree with operators that can be written has a document, and the reader gives the
tree back for each of its documents. -/
theorem read_document {tree : Value} (h : tree.IsTree fun _ _ => False) :
    LaysOut (write tree) tree ∧ ∀ document, LaysOut document tree → read document = .ok tree :=
  ⟨laysOut_write tree h, fun _ => read_of_laysOut⟩

/-- A document with its entries in no special order, a null script, a delimiter and an operator as
symbols, and an entry that no node has. -/
theorem read_document_matrix :
    let tree := Value.matrix [⟨[.subSup (.literal "x") .null (.literal "2")], none⟩,
      ⟨[.unary (.symbol (some "sqrt")) (.sequence [] (some ""))], none⟩] (some (some "lparen")) none
    let cell := Value.map none [(.str "sup", .str "2"), (.str "sub", .null), (.str "e", .str "x"),
      (.str "type", .str "subsup"), (.str "line", .scalar (.int 1))]
    let root := Value.map none [(.str "type", .str "unary"),
      (.str "op", .map none [(.str "symbol", .str "sqrt")]),
      (.str "e", .map none
        [(.str "type", .str "seq"), (.str "separator", .str ""), (.str "items", .list none [])])]
    let document := Value.map none [(.str "type", .str "matrix"),
      (.str "rows", .list none [.list none [cell], .list none [root]]),
      (.str "lparen", .map none [(.str "symbol", .str "lparen")])]
    (tree.IsTree fun _ _ => False) ∧ LaysOut document tree ∧ read document = .ok tree := by
  intro tree cell root document
  have htree : tree.IsTree fun _ _ => False := by
    simp [tree, Value.IsTree, Value.AreTreeRows, Value.AreTrees, Value.IsOperatorUnless]
  have hcell : LaysOut cell (.subSup (.literal "x") .null (.literal "2")) :=
    .subSup rfl rfl (.literal "x") (.leftOut rfl) (.node (.literal "2"))
  have hroot : LaysOut root (.unary (.symbol (some "sqrt")) (.sequence [] (some ""))) :=
    .unary rfl rfl (.symbol rfl) rfl (.seq rfl rfl (.text "") .nil)
  have hdocument : LaysOut document tree :=
    .matrix rfl rfl (.cons (.cons hcell .nil) (.cons (.cons hroot .nil) .nil)) (.symbol rfl)
      (.leftOut rfl)
  exact ⟨htree, hdocument, (read_document htree).2 document hdocument⟩

end Layout

end FormulaTex
