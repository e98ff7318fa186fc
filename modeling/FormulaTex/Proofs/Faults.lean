import FormulaTex.Failure.Reports
import FormulaTex.Proofs.Data
import FormulaTex.Proofs.KeyOrder

/-!
# How the reading of a document ends

The reader ends with a tree, or with a fault of the document's shape, unless it meets an integer
that is too long to be written or keys that cannot be sorted. It meets them only at a place that it
reads: as a literal, or while it names the value that is wrong there.
-/

namespace FormulaTex

namespace Value

/-- Whether the keys of a mapping can all be compared with each other. -/
def hasComparableKeys : Value → Bool
  | .map _ entries =>
    let keys := entries.map (·.1)
    keys.all fun a => keys.all fun b => KeyOrder.comparable a b
  | _ => true

end Value

namespace Layout

def spellsDelimiter : Value → Bool
  | .null | .str _ => true
  | .map _ entries => symbolEntry? entries |>.isSome
  | _ => false

theorem fault_of_readDelimiter {field : String} {v : Value} {fault : Fault}
    (h : readDelimiter field v = .error fault) :
    spellsDelimiter v = false ∧ fault = .naming v (.notSymbol field v) := by
  unfold readDelimiter at h
  split at h
  · cases h
  · cases h
  · rename_i label entries
    split at h
    · cases h
    · rename_i hsymbol
      cases h
      exact ⟨by simp [spellsDelimiter, hsymbol], rfl⟩
  · rename_i hnull hstr hmap
    cases h
    refine ⟨?_, rfl⟩
    unfold spellsDelimiter
    split
    · exact absurd rfl hnull
    · exact absurd rfl (hstr _)
    · exact absurd rfl (hmap _ _)
    · rfl

/-- A fault that names a value is given as it is, unless the value cannot be spelled. -/
theorem naming_cases (value : Value) (fault : Fault) :
    Fault.naming value fault = fault ∨
      value.isSpellable = false ∧ Fault.naming value fault = .integerTooLong := by
  unfold Fault.naming
  split_ifs with h
  · exact .inl rfl
  · exact .inr ⟨by simpa using h, rfl⟩

namespace Place

/-- What a place may break on. An integer literal has no written form, or the fault of the place
would name keys that have no order, or a key or a value that cannot be spelled. -/
inductive Breaks (p : Place) : Fault → Prop
  | number {n : Int} (hp : p.value = .scalar (.int n)) (hlong : Number.isWritable n = false) :
    Breaks p .integerTooLong
  | order {label entries fault} (hp : p.value = .map label entries)
    (hkind : Kind.of entries = .untyped) (hsymbol : field? "symbol" entries = none)
    (horder : KeyOrder.sort (entries.map (·.1)) = .error fault) : Breaks p (.unorderedKeys fault)
  | key {label entries key} (hp : p.value = .map label entries)
    (hkind : Kind.of entries = .untyped) (hsymbol : field? "symbol" entries = none)
    (hkey : key ∈ entries.map (·.1)) (hlong : key.isSpellable = false) :
    Breaks p .integerTooLong
  | symbol {label entries tag} (hp : p.value = .map label entries)
    (hkind : Kind.of entries = .untyped) (hsymbol : field? "symbol" entries = some tag)
    (htext : ∀ text, tag ≠ .str text) (hlong : (Value.map label entries).isSpellable = false) :
    Breaks p .integerTooLong
  | kind {label entries type} (hp : p.value = .map label entries)
    (hkind : Kind.of entries = .unknown type) (hlong : type.isSpellable = false) :
    Breaks p .integerTooLong
  | delimiter {label entries name value} (hp : p.value = .map label entries)
    (hkind : Kind.of entries = .paren ∨ Kind.of entries = .matrix)
    (hname : name = "lparen" ∨ name = "rparen") (hfield : field? name entries = some value)
    (hsymbol : spellsDelimiter value = false) (hlong : value.isSpellable = false) :
    Breaks p .integerTooLong

/-- How a place can end without a tree: in a fault of its shape, at what it breaks on, or like one
of the places that it reads. -/
def Ends (p : Place) (places : List Place) (fault : Fault) : Prop :=
  fault.failure.kind = .invalidNode ∨ p.Breaks fault ∨ ∃ q ∈ places, q.read = .error fault

variable {p : Place} {fault : Fault} {label : Option Nat} {entries : List (Scalar × Value)}
variable {places others : List Place}

theorem Ends.mono (h : p.Ends places fault) (hsub : places ⊆ others) : p.Ends others fault := by
  obtain hshape | hbreaks | ⟨q, hq, hread⟩ := h
  · exact .inl hshape
  · exact .inr (.inl hbreaks)
  · exact .inr (.inr ⟨q, hsub hq, hread⟩)

theorem exists_of_readAll {scope : Scope} {items : List Value}
    (h : readAll scope items = .error fault) :
    ∃ q ∈ items.map (Place.mk scope), q.read = .error fault := by
  induction items with
  | nil => cases h
  | cons item items ih =>
    rw [readAll] at h
    obtain hitem | ⟨node, -, h⟩ := bind_eq_error.mp h
    · exact ⟨⟨scope, item⟩, List.mem_cons_self, hitem⟩
    · obtain hrest | ⟨nodes, -, h⟩ := bind_eq_error.mp h
      · obtain ⟨q, hq, hread⟩ := ih hrest
        exact ⟨q, List.mem_cons_of_mem _ hq, hread⟩
      · cases h

theorem exists_of_items {items : List Value} (hp : p.value = .list label items)
    (h : readAll p.inner items = .error fault) : ∃ q ∈ p.items, q.read = .error fault := by
  rw [items_of_list hp]
  exact exists_of_readAll h

theorem exists_of_readRows {scope : Scope} {items : List Value}
    (hfinite : ∀ item ∈ items, item.isFinite = true) (hlists : items.all isList = true)
    (h : readRows scope items = .error fault) :
    ∃ q ∈ (items.map (Place.mk scope)).flatMap Place.items, q.read = .error fault := by
  induction items with
  | nil => cases h
  | cons item items ih =>
    obtain ⟨hitem, hrest⟩ := List.forall_mem_cons.mp hfinite
    obtain ⟨hlist, hlists⟩ := Bool.and_eq_true_iff.mp hlists
    cases item with
    | list label cells =>
      rw [readRows] at h
      obtain hcells | ⟨nodes, -, h⟩ := bind_eq_error.mp h
      · have hrow : ∃ q ∈ Place.items ⟨scope, .list label cells⟩, q.read = .error fault :=
          exists_of_items rfl hcells
        obtain ⟨q, hq, hread⟩ := hrow
        exact ⟨q, List.mem_append_left _ hq, hread⟩
      · obtain hrows | ⟨rows, -, h⟩ := bind_eq_error.mp h
        · obtain ⟨q, hq, hread⟩ := ih hrest hlists hrows
          exact ⟨q, List.mem_append_right _ hq, hread⟩
        · cases h
    | cycle label shape => cases hitem
    | _ => cases hlist

theorem ends_of_nodeField {kind name : String} (hmap : p.value = .map label entries)
    (h : nodeField p.inner kind name entries = .error fault) : p.Ends (p.entry name) fault := by
  rw [nodeField_eq] at h
  rw [entry_of_map hmap]
  split at h
  · cases h
    exact .inl rfl
  · rename_i value hfield
    exact .inr (.inr ⟨⟨p.inner, value⟩, by simp [hfield], h⟩)

theorem ends_of_scriptField {name : String} (hmap : p.value = .map label entries)
    (h : scriptField p.inner name entries = .error fault) :
    p.Ends ((p.entry name).filter (!·.value.isNull)) fault := by
  rw [scriptField_eq] at h
  rw [entry_of_map hmap]
  split at h
  · cases h
  · rename_i value hfield
    split_ifs at h with hnull
    exact .inr (.inr ⟨⟨p.inner, value⟩, by simp [hfield, hnull], h⟩)

theorem ends_of_operatorField {kind : String} {scope : Scope}
    (h : operatorField scope kind entries = .error fault) : p.Ends [] fault := by
  unfold operatorField at h
  split at h
  · cases h
    exact .inl rfl
  · cases h

theorem ends_of_delimiterField {name : String} (hp : p.IsFinite)
    (hmap : p.value = .map label entries)
    (hkind : Kind.of entries = .paren ∨ Kind.of entries = .matrix)
    (hname : name = "lparen" ∨ name = "rparen")
    (h : delimiterField p.inner name entries = .error fault) : p.Ends [] fault := by
  rw [delimiterField, hp.inner, Scope.alone_nil] at h
  cases hfield : field? name entries with
  | none =>
    rw [hfield] at h
    cases h
  | some value =>
    rw [hfield] at h
    obtain ⟨hsymbol, rfl⟩ := fault_of_readDelimiter h
    rw [Option.getD_some]
    obtain hnamed | ⟨hlong, htooLong⟩ := naming_cases value (.notSymbol name value)
    · rw [hnamed]
      exact .inl rfl
    · rw [htooLong]
      exact .inr (.inl (.delimiter hmap hkind hname hfield hsymbol hlong))

theorem ends_of_rowsField (hp : p.IsFinite) (hmap : p.value = .map label entries)
    (h : rowsField p.inner entries = .error fault) :
    p.Ends (((p.entry "rows").flatMap Place.items).flatMap Place.items) fault := by
  rw [rowsField_eq] at h
  split at h
  · cases h
    exact .inl rfl
  · rename_i inside rows hfield
    split_ifs at h with hlists
    · have hentry : p.entry "rows" = [⟨p.inner, .list inside rows⟩] := by
        rw [entry_of_map hmap, hfield]
        rfl
      have hlist : IsFinite ⟨p.inner, .list inside rows⟩ :=
        IsFinite.inside (.inr ⟨"rows", by simp [hentry]⟩) hp
      have hrows : ∀ row ∈ rows, row.isFinite = true := by
        intro row hrow
        have hinside : Inside ⟨p.inner, .list inside rows⟩ ⟨_, row⟩ :=
          .inl (List.mem_map_of_mem hrow)
        exact (IsFinite.inside hinside hlist).value
      have hitems : Place.items ⟨p.inner, .list inside rows⟩ =
          rows.map (Place.mk (p.inner.enter inside (.list inside rows))) := rfl
      rw [hentry, List.flatMap_singleton, hitems]
      exact .inr (.inr (exists_of_readRows hrows hlists h))
    · cases h
      exact .inl rfl
  · rename_i value hnot hfield
    have htable : isTable value = false := by
      cases value <;> first | rfl | exact absurd rfl (hnot _ _)
    rw [hp.inner, Scope.alone_nil, htable] at h
    cases h
    exact .inl rfl

theorem ends_of_separatorField (h : separatorField entries = .error fault) : p.Ends [] fault := by
  unfold separatorField at h
  split at h <;> cases h
  exact .inl rfl

theorem ends_of_itemsField (hp : p.IsFinite) (hmap : p.value = .map label entries)
    (h : itemsField p.inner (separatorField entries) entries = .error fault) :
    p.Ends ((p.entry "items").flatMap Place.items) fault := by
  rw [itemsField_eq] at h
  split at h
  · cases h
    exact .inl rfl
  · rename_i inside items hfield
    obtain hseparator | ⟨separator, -, h⟩ := bind_eq_error.mp h
    · exact (ends_of_separatorField hseparator).mono (List.nil_subset _)
    · obtain hitems | ⟨nodes, -, h⟩ := bind_eq_error.mp h
      · have hlist : ∃ q ∈ Place.items ⟨p.inner, .list inside items⟩, q.read = .error fault :=
          exists_of_items rfl hitems
        exact .inr (.inr (by simpa [entry_of_map hmap, hfield] using hlist))
      · cases h
  · rename_i inside hfield
    have hcycle : IsFinite ⟨p.inner, .cycle inside .list⟩ :=
      IsFinite.inside (.inr ⟨"items", by simp [entry_of_map hmap, hfield]⟩) hp
    cases hcycle.value
  · cases h
    exact .inl rfl

theorem ends_of_readUntyped (hp : p.IsFinite) (hmap : p.value = .map label entries)
    (hkind : Kind.of entries = .untyped)
    (h : readUntyped (p.scope.alone p.value) entries = .error fault) : p.Ends [] fault := by
  rw [hp.scope, Scope.alone_nil] at h
  unfold readUntyped at h
  split at h
  · cases h
  · rename_i tag hnot hsymbol
    have htext : ∀ text, tag ≠ .str text := fun text htag => hnot text htag
    cases h
    obtain hnamed | ⟨hlong, htooLong⟩ := naming_cases p.value (.notSymbol "symbol" p.value)
    · rw [hnamed]
      exact .inl rfl
    · rw [htooLong]
      exact .inr (.inl (.symbol hmap hkind hsymbol htext (hmap ▸ hlong)))
  · rename_i hsymbol
    cases h
    unfold Fault.ofKeys
    split
    · rename_i order hsort
      exact .inr (.inl (.order hmap hkind hsymbol hsort))
    · rename_i keys hsort
      split_ifs with hall
      · exact .inl rfl
      · obtain ⟨key, hkey, hlong⟩ : ∃ key ∈ keys, key.isSpellable = false := by
          simpa using hall
        have hmem := (KeyOrder.perm_of_sort hsort).mem_iff.mp hkey
        exact .inr (.inl (.key hmap hkind hsymbol hmem hlong))

theorem ends_of_readScalar {s : Scalar} (hp : p.value = .scalar s)
    (h : readScalar s = .error fault) : p.Ends [] fault := by
  cases s with
  | int n =>
    simp only [readScalar] at h
    split_ifs at h with hwritable
    cases h
    exact .inr (.inl (.number hp (by simpa using hwritable)))
  | str text => cases h
  | float x => cases h
  | _ =>
    cases h
    exact .inl rfl

theorem ends_of_readUnknown {type : Value} (hp : p.IsFinite) (hmap : p.value = .map label entries)
    (hkind : Kind.of entries = .unknown type)
    (h : readUnknown (p.inner.alone type) = .error fault) : p.Ends [] fault := by
  rw [hp.inner, Scope.alone_nil, readUnknown] at h
  cases h
  obtain hnamed | ⟨hlong, htooLong⟩ := naming_cases type (.unknownKind type)
  · rw [hnamed]
    exact .inl rfl
  · rw [htooLong]
    exact .inr (.inl (.kind hmap hkind hlong))

/-- A place of finite data that lays out no tree has a wrong shape, breaks, or has a part that lays
out none. -/
theorem ends_of_read (hp : p.IsFinite) (h : p.read = .error fault) : p.Ends p.parts fault := by
  have hnone : ∀ {places}, p.Ends [] fault → p.Ends places fault :=
    fun hends => hends.mono (List.nil_subset _)
  have hself := Value.everywhere_self hp.value
  cases hvalue : p.value with
  | scalar s =>
    rw [Place.read, hvalue, readIn] at h
    exact hnone (ends_of_readScalar hvalue h)
  | list label items =>
    rw [read_of_list hvalue] at h
    obtain hitems | ⟨nodes, -, h⟩ := bind_eq_error.mp h
    · rw [parts_of_list hvalue]
      exact .inr (.inr (exists_of_items hvalue hitems))
    · cases h
  | map label entries =>
    rw [read_of_map hvalue] at h
    rw [parts_of_map hvalue]
    cases hkind : Kind.of entries with
    | untyped =>
      rw [hkind] at h
      exact ends_of_readUntyped hp hvalue hkind h
    | text =>
      simp only [hkind, readText] at h
      split at h <;> cases h
      exact .inl rfl
    | seq =>
      rw [hkind] at h
      exact ends_of_itemsField hp hvalue h
    | paren =>
      simp only [hkind, bind_eq_error] at h
      obtain hbody | ⟨body, -, hleft | ⟨left, -, hright | ⟨right, -, h⟩⟩⟩ := h
      · exact ends_of_nodeField hvalue hbody
      · exact hnone (ends_of_delimiterField hp hvalue (.inl hkind) (.inl rfl) hleft)
      · exact hnone (ends_of_delimiterField hp hvalue (.inl hkind) (.inr rfl) hright)
      · cases h
    | subSup =>
      simp only [hkind, bind_eq_error] at h
      rw [List.filter_append]
      obtain hbase | ⟨base, -, hsub | ⟨sub, -, hsup | ⟨sup, -, h⟩⟩⟩ := h
      · exact (ends_of_nodeField hvalue hbase).mono (List.subset_append_left _ _)
      · refine (ends_of_scriptField hvalue hsub).mono ?_
        exact List.subset_append_of_subset_right _ (List.subset_append_left _ _)
      · refine (ends_of_scriptField hvalue hsup).mono ?_
        exact List.subset_append_of_subset_right _ (List.subset_append_right _ _)
      · cases h
    | unary =>
      simp only [hkind, bind_eq_error] at h
      obtain hoperator | ⟨operator, -, hoperand | ⟨operand, -, h⟩⟩ := h
      · exact hnone (ends_of_operatorField hoperator)
      · exact ends_of_nodeField hvalue hoperand
      · cases h
    | binary =>
      simp only [hkind, bind_eq_error] at h
      obtain hoperator | ⟨operator, -, hleft | ⟨left, -, hright | ⟨right, -, h⟩⟩⟩ := h
      · exact hnone (ends_of_operatorField hoperator)
      · exact (ends_of_nodeField hvalue hleft).mono (List.subset_append_left _ _)
      · exact (ends_of_nodeField hvalue hright).mono (List.subset_append_right _ _)
      · cases h
    | matrix =>
      simp only [hkind, bind_eq_error] at h
      obtain hrows | ⟨rows, -, hleft | ⟨left, -, hright | ⟨right, -, h⟩⟩⟩ := h
      · exact ends_of_rowsField hp hvalue hrows
      · exact hnone (ends_of_delimiterField hp hvalue (.inr hkind) (.inl rfl) hleft)
      · exact hnone (ends_of_delimiterField hp hvalue (.inr hkind) (.inr rfl) hright)
      · cases h
    | unknown type =>
      rw [hkind] at h
      exact ends_of_readUnknown hp hvalue hkind h
  | cycle label shape =>
    rw [hvalue] at hself
    cases hself
  | tuple items | set members | rawText text =>
    rw [Place.read, hvalue] at h
    cases h
    exact .inl rfl
  | _ =>
    rw [Place.read, hvalue] at h
    cases h

theorem spellsDelimiter_of_delimiterField {name : String} {value : Value} {delimiter : Option Tag}
    (hfield : field? name entries = some value)
    (h : delimiterField [] name entries = .ok delimiter) : spellsDelimiter value = true := by
  rw [delimiterField, hfield, Option.getD_some, Scope.alone_nil] at h
  unfold readDelimiter at h
  split at h
  · rfl
  · rfl
  · rename_i label entries
    split at h
    · rename_i hsymbol
      simp [spellsDelimiter, hsymbol]
    · cases h
  · cases h

theorem ne_ok_of_breaks (hp : p.IsFinite) (h : p.Breaks fault) (node : Value) :
    p.read ≠ .ok node := by
  intro hread
  cases h with
  | number hvalue hlong =>
    rw [Place.read, hvalue, readIn, readScalar, hlong] at hread
    cases hread
  | order hmap hkind hsymbol _ | key hmap hkind hsymbol _ _ =>
    rw [read_of_map hmap, hkind] at hread
    simp [readUntyped, hsymbol] at hread
  | symbol hmap hkind hsymbol htext _ =>
    rw [read_of_map hmap, hkind] at hread
    simp [readUntyped, hsymbol] at hread
  | kind hmap hkind _ =>
    rw [read_of_map hmap, hkind] at hread
    cases hread
  | @delimiter label entries name value hmap hkind hname hfield hsymbol _ =>
    have hboth : ∃ left right, delimiterField [] "lparen" entries = .ok left ∧
        delimiterField [] "rparen" entries = .ok right := by
      rw [read_of_map hmap, hp.inner] at hread
      obtain hkind | hkind := hkind <;> simp only [hkind, bind_eq_ok] at hread
      · obtain ⟨body, -, left, hleft, right, hright, -⟩ := hread
        exact ⟨left, right, hleft, hright⟩
      · obtain ⟨rows, -, left, hleft, right, hright, -⟩ := hread
        exact ⟨left, right, hleft, hright⟩
    obtain ⟨left, right, hleft, hright⟩ := hboth
    obtain rfl | rfl := hname
    · simp [spellsDelimiter_of_delimiterField hfield hleft] at hsymbol
    · simp [spellsDelimiter_of_delimiterField hfield hright] at hsymbol

/-- A fault of a document that is not one of its shape comes from a place that breaks. -/
theorem breaks_of_read {document : Value} (hfinite : document.isFinite = true) (p : Place)
    (habove : (root document).Above p) (h : p.read = .error fault) :
    fault.failure.kind = .invalidNode ∨
      ∃ q, (root document).Above q ∧ q.read = .error fault ∧ q.Breaks fault := by
  induction p using Place.induction with
  | step p ih =>
    obtain hshape | hbreaks | ⟨q, hq, hread⟩ := ends_of_read (isFinite_above hfinite habove) h
    · exact .inl hshape
    · exact .inr ⟨p, habove, h, hbreaks⟩
    · exact ih q hq (habove.tail hq) hread

theorem field?_of_unknown {type : Value} (h : Kind.of entries = .unknown type) :
    field? "type" entries = some type := by
  unfold Kind.of at h
  cases hfield : field? "type" entries with
  | none =>
    rw [hfield] at h
    cases h
  | some value =>
    rw [hfield, Option.getD_some] at h
    split at h <;> cases h
    rfl

theorem isSpellable_of_field? (hspellable : (Value.map label entries).isSpellable = true)
    {name : String} {value : Value} (hfield : field? name entries = some value) :
    value.isSpellable = true := by
  have hall := Value.everywhere_isSpellable _ hspellable
  exact Value.everywhere_self
    (Value.everywhere_of_field? (Bool.and_eq_true_iff.mp hall).2 hfield)

theorem isSpellable_of_key (hspellable : (Value.map label entries).isSpellable = true)
    {key : Scalar} (hkey : key ∈ entries.map (·.1)) : key.isSpellable = true := by
  induction entries with
  | nil => cases hkey
  | cons entry entries ih =>
    obtain ⟨first, value⟩ := entry
    obtain ⟨hentry, hrest⟩ := Bool.and_eq_true_iff.mp hspellable
    obtain rfl | hkey := List.mem_cons.mp hkey
    · exact (Bool.and_eq_true_iff.mp hentry).1
    · exact ih hrest hkey

theorem exists_sort_of_comparable (hkeys : (Value.map label entries).hasComparableKeys = true) :
    ∃ keys, KeyOrder.sort (entries.map (·.1)) = .ok keys := by
  have hall : ∀ a b, a ∈ entries.map (·.1) → b ∈ entries.map (·.1) →
      KeyOrder.comparable a b = true := by
    intro a b ha hb
    exact List.all_eq_true.mp (List.all_eq_true.mp hkeys a ha) b hb
  exact KeyOrder.exists_sort hall fun _ hkey => hkey

/-- A place breaks on nothing if it holds no integer that is too long and can sort its keys. -/
theorem not_breaks (hspellable : p.value.isSpellable = true)
    (hkeys : p.value.hasComparableKeys = true) : ¬ p.Breaks fault := by
  intro h
  cases h with
  | number hp hlong =>
    have hwritable : Value.isSpellable (.scalar (.int _)) = true := hp ▸ hspellable
    exact absurd (hlong.symm.trans hwritable) Bool.false_ne_true
  | order hp _ _ horder =>
    rw [hp] at hkeys
    obtain ⟨keys, hsorted⟩ := exists_sort_of_comparable hkeys
    rw [hsorted] at horder
    cases horder
  | key hp _ _ hkey hlong =>
    rw [hp] at hspellable
    simp [isSpellable_of_key hspellable hkey] at hlong
  | symbol hp _ _ _ hlong =>
    rw [hp, hlong] at hspellable
    cases hspellable
  | kind hp hkind hlong =>
    rw [hp] at hspellable
    simp [isSpellable_of_field? hspellable (field?_of_unknown hkind)] at hlong
  | delimiter hp _ _ hfield _ hlong =>
    rw [hp] at hspellable
    simp [isSpellable_of_field? hspellable hfield] at hlong

/-- What holds everywhere in a document holds at the places in it. -/
theorem everywhere_above {document : Value} {test : Value → Bool}
    (h : document.everywhere test = true) (habove : (root document).Above p) :
    test p.value = true :=
  Value.everywhere_self (inherit (motive := fun q => q.value.everywhere test = true)
    everywhere_inside habove h)

end Place

/-- The reader ends with a tree or with a fault of the document's shape. Any other fault is that of
a place that it reads and breaks on, and no such place lays out a tree. There is none where no
integer is too long to be written and the keys of each mapping have an order. -/
theorem read_ends {document : Value} (hfinite : document.isFinite = true) :
    (∀ tree, read document = .ok tree → tree.isNode = true) ∧
    (∀ fault, read document = .error fault → fault.failure.kind = .invalidNode ∨
      ∃ p, (Place.root document).Above p ∧ p.read = .error fault ∧ p.Breaks fault) ∧
    (∀ p fault, (Place.root document).Above p → p.Breaks fault → ∀ node, p.read ≠ .ok node) ∧
    (document.isSpellable = true → document.everywhere Value.hasComparableKeys = true →
      ∀ fault, read document = .error fault → fault.failure.kind = .invalidNode) := by
  have hends : ∀ fault, read document = .error fault → fault.failure.kind = .invalidNode ∨
      ∃ p, (Place.root document).Above p ∧ p.read = .error fault ∧ p.Breaks fault :=
    fun fault h => Place.breaks_of_read hfinite (Place.root document) .refl h
  refine ⟨fun tree h => isNode_of_read (p := Place.root document) h, hends, ?_, ?_⟩
  · intro p fault habove hbreaks
    exact Place.ne_ok_of_breaks (Place.isFinite_above hfinite habove) hbreaks
  · intro hspellable hkeys fault h
    obtain hshape | ⟨p, habove, -, hbreaks⟩ := hends fault h
    · exact hshape
    · have hall := Value.everywhere_isSpellable document hspellable
      have hnone : ¬ p.Breaks fault :=
        Place.not_breaks (Place.everywhere_above hall habove) (Place.everywhere_above hkeys habove)
      exact absurd hbreaks hnone

/-- A mapping without a kind, inside a list. Its keys are texts and have an order. -/
theorem read_ends_text_keys :
    let document := Value.list none [.map none [(.str "b", .str "x"), (.str "a", .str "y")]]
    document.isFinite = true ∧ document.isSpellable = true ∧
      document.everywhere Value.hasComparableKeys = true ∧
      read document = .error (.noKind [.str "a", .str "b"]) ∧
      (Fault.noKind [.str "a", .str "b"]).failure.kind = .invalidNode := by
  intro document
  have hfinite : document.isFinite = true := by decide
  have hspellable : document.isSpellable = true := by decide
  have hkeys : document.everywhere Value.hasComparableKeys = true := by decide
  have hread : read document = .error (.noKind [.str "a", .str "b"]) := rfl
  exact ⟨hfinite, hspellable, hkeys, hread, (read_ends hfinite).2.2.2 hspellable hkeys _ hread⟩

/-- Keys of several types have no order, and the fault is one of the comparison. -/
theorem read_ends_mixed_keys :
    let document := Value.map none [(.int 1, .str "a"), (.str "b", .str "c")]
    document.isFinite = true ∧ document.isPlain = true ∧
      read document = .error (.unorderedKeys (.types "str" "int")) ∧
      (Fault.unorderedKeys (.types "str" "int")).failure.kind = .other "TypeError" :=
  ⟨rfl, rfl, rfl, rfl⟩

end Layout

end FormulaTex
