import FormulaTex.Proofs.Children
import FormulaTex.Proofs.Mentions
import Mathlib.Logic.Relation

/-!
# Settings that a tree does not use

The settings reach a rendering through what the tree mentions, and through nothing else but the
limit of depth. So two renderers with one limit cannot be told apart by a tree if their tables agree
on the tags that its nodes consult, and if the separator and the accents agree or no node needs
them. In particular an entry for a symbol that is only ever an operator of its own construction has
no effect.
-/

namespace FormulaTex

namespace Value

/-- Whether a value stands in a tree. -/
def Contains : Value → Value → Prop :=
  Relation.ReflTransGen fun v c => c ∈ v.children

/-- The tags of a pair of delimiters, where the missing one of a pair is the nameless tag. -/
def fence (left right : Option Tag) : List Tag :=
  match left, right with
  | none, none => []
  | left, right => [left.join, right.join]

def appliedTags (operator : Tag) : List Tag :=
  if operator = some "norm" then [some "lvert", some "rvert"]
  else if operator = some "floor" then [some "lfloor", some "rfloor"]
  else if operator = some "ceil" then [some "lceiling", some "rceiling"]
  else if operator = some "overarc" then [some "overset", some "frown"]
  else [operator]

/-- The tags that a node consults, its children apart. -/
def consulted : Value → List Tag
  | .symbol tag => [tag]
  | .parenthesized _ left right => fence left right
  | .matrix _ left right => fence left right
  | .unary (.symbol operator) _ => appliedTags operator
  | .binary (.symbol operator) _ _ => if operator = some "root" then [some "sqrt"] else [operator]
  | _ => []

def Makes (v : Value) : Mention → Prop
  | .tag tag => tag ∈ v.consulted
  | .gap separator => ∃ items, v = .sequence items separator ∧ 2 ≤ items.length
  | .text content => v = .literal content ∨ v = .textRun content
  | .stranger _ => True

variable {v : Value} {m : Mention}

theorem mem_fenced {left right : Option Tag} {body : List Mention}
    (h : m ∈ Mention.fenced left right body) :
    (∃ tag ∈ fence left right, m = .tag tag) ∨ m ∈ body := by
  unfold Mention.fenced at h
  split at h
  · exact Or.inr h
  · rename_i hpair
    have hfence : fence left right = [left.join, right.join] := by
      unfold fence
      split
      · exact absurd rfl (hpair rfl)
      · rfl
    simp only [List.mem_cons, List.mem_append, List.not_mem_nil, or_false] at h
    obtain h | h | h := h
    · exact Or.inl ⟨left.join, by simp [hfence], h⟩
    · exact Or.inr h
    · exact Or.inl ⟨right.join, by simp [hfence], h⟩

theorem mem_applied {operator : Tag} {operand : List Mention}
    (h : m ∈ Mention.applied operator operand) :
    (∃ tag ∈ appliedTags operator, m = .tag tag) ∨ m ∈ operand := by
  unfold Mention.applied at h
  unfold appliedTags
  split_ifs at h ⊢
  · exact mem_fenced h
  · exact mem_fenced h
  · exact mem_fenced h
  · simpa [or_assoc] using h
  · simpa using h

/-- A root may leave out the mentions of its index. -/
theorem mem_binary {tag : Tag} {index : Value} {left right : List Mention}
    (h : m ∈ Mention.binary (.symbol tag) index left right) :
    (∃ t ∈ if tag = some "root" then [some "sqrt"] else [tag], m = .tag t) ∨
      m ∈ left ∨ m ∈ right := by
  simp only [Mention.binary] at h
  split_ifs at h ⊢
  · obtain rfl | hright := List.mem_cons.mp h
    · exact Or.inl ⟨some "sqrt", List.mem_singleton_self _, rfl⟩
    · exact Or.inr (Or.inr hright)
  · simpa using h
  · simpa using h

/-- A gap stands between two items only. -/
theorem mem_mentionsOfItems {between : List Mention} {items : List Value}
    (h : m ∈ mentionsOfItems between items) :
    (2 ≤ items.length ∧ m ∈ between) ∨ ∃ item ∈ items, m ∈ item.mentions := by
  induction items with
  | nil => cases h
  | cons item rest ih =>
    cases rest with
    | nil => exact Or.inr ⟨item, List.mem_cons_self, h⟩
    | cons next rest =>
      rw [mentionsOfItems_cons_cons] at h
      simp only [List.mem_append] at h
      obtain h | h | h := h
      · exact Or.inr ⟨item, List.mem_cons_self, h⟩
      · exact Or.inl ⟨by simp, h⟩
      · obtain ⟨hlength, hbetween⟩ | ⟨other, hother, hm⟩ := ih h
        · exact Or.inl ⟨by simp, hbetween⟩
        · exact Or.inr ⟨other, List.mem_cons_of_mem _ hother, hm⟩

theorem mem_mentionsOfRows {rows : List (Row Value)} (h : m ∈ mentionsOfRows rows) :
    ∃ cell ∈ rows.flatMap Row.cells, m ∈ cell.mentions := by
  induction rows with
  | nil => cases h
  | cons row rows ih =>
    rw [mentionsOfRows_cons, List.mem_append] at h
    rw [List.flatMap_cons]
    obtain h | h := h
    · obtain ⟨-, hnone⟩ | ⟨cell, hcell, hm⟩ := mem_mentionsOfItems h
      · cases hnone
      · exact ⟨cell, List.mem_append_left _ hcell, hm⟩
    · obtain ⟨cell, hcell, hm⟩ := ih h
      exact ⟨cell, List.mem_append_right _ hcell, hm⟩

theorem makes_or_mem_children (h : m ∈ v.mentions) :
    v.Makes m ∨ ∃ c ∈ v.children, m ∈ c.mentions := by
  have hmakes : ∀ tags, v.consulted = tags → (∃ tag ∈ tags, m = .tag tag) → v.Makes m := by
    rintro tags rfl ⟨tag, htag, rfl⟩
    exact htag
  cases v with
  | scalar s =>
    cases s with
    | null => cases h
    | _ =>
      obtain rfl := List.mem_singleton.mp h
      exact Or.inl trivial
  | literal text =>
    obtain rfl := List.mem_singleton.mp h
    exact Or.inl (Or.inl rfl)
  | textRun content =>
    obtain rfl := List.mem_singleton.mp h
    exact Or.inl (Or.inr rfl)
  | symbol tag => exact Or.inl (hmakes _ rfl ⟨tag, List.mem_singleton_self tag,
      List.mem_singleton.mp h⟩)
  | sequence items separator =>
    obtain ⟨hlength, hgap⟩ | hitem := mem_mentionsOfItems h
    · obtain rfl := List.mem_singleton.mp hgap
      exact Or.inl ⟨items, rfl, hlength⟩
    · exact Or.inr hitem
  | parenthesized inner left right =>
    obtain hfence | hinner := mem_fenced h
    · exact Or.inl (hmakes _ rfl hfence)
    · exact Or.inr ⟨inner, List.mem_singleton_self inner, hinner⟩
  | matrix rows left right =>
    obtain hfence | hrows := mem_fenced h
    · exact Or.inl (hmakes _ rfl hfence)
    · exact Or.inr (mem_mentionsOfRows hrows)
  | subSup base sub sup =>
    right
    obtain ⟨hsub, hsup⟩ := (forall_scripts (p := fun c => m ∈ c.mentions →
      ∃ c ∈ (subSup base sub sup).children, m ∈ c.mentions) nofun sub sup).mp
        fun c hc hm => ⟨c, List.mem_cons_of_mem base hc, hm⟩
    simp only [mentions, List.mem_append] at h
    obtain h | h | h := h
    · exact ⟨base, List.mem_cons_self, h⟩
    · exact hsub h
    · exact hsup h
  | unary operator operand =>
    cases operator with
    | symbol tag =>
      obtain htags | hoperand := mem_applied h
      · exact Or.inl (hmakes _ rfl htags)
      · exact Or.inr ⟨operand, List.mem_singleton_self operand, hoperand⟩
    | rawText text => exact Or.inr ⟨operand, List.mem_singleton_self operand, h⟩
    | _ => cases h
  | binary operator left right =>
    have hoperands : m ∈ left.mentions ∨ m ∈ right.mentions →
        ∃ c ∈ (binary operator left right).children, m ∈ c.mentions := by
      rintro (hleft | hright)
      · exact ⟨left, List.mem_cons_self, hleft⟩
      · exact ⟨right, List.mem_cons_of_mem left (List.mem_singleton_self right), hright⟩
    cases operator with
    | symbol tag =>
      obtain htags | hsides := mem_binary h
      · exact Or.inl (hmakes _ rfl htags)
      · exact Or.inr (hoperands hsides)
    | rawText text => exact Or.inr (hoperands (List.mem_append.mp h))
    | _ => cases h
  | _ =>
    obtain rfl := List.mem_singleton.mp h
    exact Or.inl trivial

/-- Every mention of a tree is made by one of its nodes. -/
theorem exists_makes_of_mem_mentions (v : Value) :
    ∀ m ∈ v.mentions, ∃ node, v.Contains node ∧ node.Makes m := by
  induction v using children_induction with
  | step v ih =>
    intro m hm
    obtain hself | ⟨c, hc, hchild⟩ := makes_or_mem_children hm
    · exact ⟨v, Relation.ReflTransGen.refl, hself⟩
    · obtain ⟨node, hnode, hmakes⟩ := ih c hc m hchild
      exact ⟨node, Relation.ReflTransGen.head hc hnode, hmakes⟩

theorem forall_contains {p : Value → Prop} :
    (∀ node, v.Contains node → p node) ↔
      p v ∧ ∀ c ∈ v.children, ∀ node, c.Contains node → p node := by
  constructor
  · intro h
    exact ⟨h v Relation.ReflTransGen.refl,
      fun c hc node hnode => h node (Relation.ReflTransGen.head hc hnode)⟩
  · rintro ⟨hself, hbelow⟩ node hnode
    obtain rfl | ⟨c, hc, hnode⟩ := Relation.ReflTransGen.cases_head hnode
    · exact hself
    · exact hbelow c hc node hnode

end Value

theorem Latex.escapeText_of_isAscii {text : String} (h : isAscii text.toList = true)
    (legacyAccents : Bool) :
    escapeText legacyAccents text = String.ofList (escape text.toList) := by
  simp [escapeText, isAscii_escape, h]

namespace SymbolTable

variable {table other : SymbolTable} {tag : Tag}

theorem resolve_congr (h : other.get? tag = table.get? tag) :
    other.resolve tag = table.resolve tag := by
  simp only [resolve, h]

theorem isKnown_congr (h : other.get? tag = table.get? tag) :
    other.isKnown tag = table.isKnown tag := by
  simp only [isKnown, h]

/-- A custom entry after all others takes effect for its own tag alone. -/
theorem get?_layered_append (custom : List (String × String)) (name fragment : String) (tag : Tag) :
    (layered (custom ++ [(name, fragment)])).get? tag =
      if tag = some name then some fragment else (layered custom).get? tag := by
  rw [layered, List.foldl_append, List.foldl_cons, List.foldl_nil, get?_put]
  rfl

end SymbolTable

/-- Settings with one more custom symbol. An entry that its tag has had no longer counts. -/
def Settings.overriding (settings : Settings) (name fragment : String) : Settings :=
  { settings with symbols := settings.symbols ++ [(name, fragment)] }

/-- Two renderers of one limit that agree on all that a tree uses. -/
structure Renderer.Agree (r other : Renderer) (tree : Value) : Prop where
  maxDepth : other.settings.maxDepth = r.settings.maxDepth
  resolve : ∀ node, tree.Contains node → ∀ tag ∈ node.consulted,
    other.table.resolve tag = r.table.resolve tag
  isKnown : ∀ node, tree.Contains node → ∀ tag ∈ node.consulted,
    other.table.isKnown tag = r.table.isKnown tag
  /-- The separator counts where a sequence of two items or more has none of its own. -/
  separator : other.settings.separator = r.settings.separator ∨
    ∀ items separator, tree.Contains (.sequence items separator) → 2 ≤ items.length →
      separator.isSome = true
  /-- The accents count where a text has a character outside ASCII. -/
  accents : other.settings.legacyAccents = r.settings.legacyAccents ∨
    ∀ text, tree.Contains (.literal text) ∨ tree.Contains (.textRun text) →
      Latex.isAscii text.toList = true

namespace Renderer.Agree

variable {r other : Renderer} {tree node : Value} {m : Mention}

theorem fragment_eq (h : r.Agree other tree) (hnode : tree.Contains node) (hm : node.Makes m) :
    m.fragment other = m.fragment r := by
  cases m with
  | tag tag => exact h.resolve node hnode tag hm
  | gap separator =>
    obtain ⟨items, rfl, hlength⟩ := hm
    obtain hsame | howned := h.separator
    · simp only [Mention.fragment, hsame]
    · obtain ⟨own, rfl⟩ := Option.isSome_iff_exists.mp (howned items separator hnode hlength)
      rfl
  | text content =>
    obtain hsame | hascii := h.accents
    · simp only [Mention.fragment, hsame]
    · have hcontent : Latex.isAscii content.toList = true := by
        obtain rfl | rfl := hm
        · exact hascii content (Or.inl hnode)
        · exact hascii content (Or.inr hnode)
      simp only [Mention.fragment, Latex.escapeText_of_isAscii hcontent]
  | stranger typeName => rfl

/-- A step that the tree calls for does the same in both renderers. -/
theorem draft_step (h : r.Agree other tree) {s : Step}
    (hs : ∀ m, s.mention? = some m → m ∈ tree.mentions) : s.draft other = s.draft r := by
  have hmakes : ∀ m, s.mention? = some m → ∃ node, tree.Contains node ∧ node.Makes m :=
    fun m hm => tree.exists_makes_of_mem_mentions m (hs m hm)
  have htext : s.text other = s.text r := by
    cases hm : s.mention? with
    | none => cases s <;> first | rfl | cases hm
    | some m =>
      obtain ⟨node, hnode, hnodem⟩ := hmakes m hm
      rw [Step.text_of_mention? hm, Step.text_of_mention? hm, h.fragment_eq hnode hnodem]
  have hnotes : s.notes other = s.notes r := by
    cases s with
    | look tag =>
      obtain ⟨node, hnode, htag⟩ := hmakes (.tag tag) rfl
      cases tag with
      | none => rfl
      | some name =>
        have hnoted : other.isNoted name = r.isNoted name := by
          simp only [isNoted, h.isKnown node hnode (some name) htag]
        simp only [Step.notes, note?, hnoted]
    | _ => rfl
  simp only [Step.draft, htext, hnotes, h.maxDepth]

theorem draft_steps (h : r.Agree other tree) {steps : List Step}
    (hs : ∀ m ∈ Steps.mentions steps, m ∈ tree.mentions) :
    Steps.draft other steps = Steps.draft r steps := by
  induction steps with
  | nil => rfl
  | cons s rest ih =>
    simp only [Steps.mentions_cons, List.forall_mem_append, Option.mem_toList] at hs
    rw [Steps.draft, Steps.draft, h.draft_step hs.1, ih hs.2]

theorem render_eq (h : r.Agree other tree) : other.render tree = r.render tree := by
  have hmentions := Steps.mentions_of 0 tree
  rw [render_eq_draft, render_eq_draft]
  exact h.draft_steps fun m hm => hmentions ▸ hm

/-- An entry for a tag that no node of the tree consults. -/
theorem overriding (settings : Settings) (name fragment : String)
    (h : ∀ node, tree.Contains node → some name ∉ node.consulted) :
    (ofSettings settings).Agree (ofSettings (settings.overriding name fragment)) tree where
  maxDepth := rfl
  resolve node hnode tag htag := by
    have hother : tag ≠ some name := fun heq => h node hnode (heq ▸ htag)
    apply SymbolTable.resolve_congr
    exact (SymbolTable.get?_layered_append _ _ _ _).trans (if_neg hother)
  isKnown node hnode tag htag := by
    have hother : tag ≠ some name := fun heq => h node hnode (heq ▸ htag)
    apply SymbolTable.isKnown_congr
    exact (SymbolTable.get?_layered_append _ _ _ _).trans (if_neg hother)
  separator := Or.inl rfl
  accents := Or.inl rfl

end Renderer.Agree

namespace Renderer

/-- A tree is rendered alike, with the same notes and the same text or fault, under all settings
that agree on what it uses. So an entry for a tag that no node consults has no effect, and the four
constructions of one operand and the root do not consult the tag that calls for them. -/
theorem render_agree (tree : Value) :
    (∀ r other : Renderer, r.Agree other tree → other.render tree = r.render tree) ∧
    (∀ (settings : Settings) (name fragment : String),
      (∀ node, tree.Contains node → some name ∉ node.consulted) →
        (ofSettings (settings.overriding name fragment)).render tree =
          (ofSettings settings).render tree) ∧
    (∀ name ∈ ["norm", "floor", "ceil", "overarc"], ∀ operand,
      some name ∉ (Value.unary (.symbol (some name)) operand).consulted) ∧
    ∀ left right, some "root" ∉ (Value.binary (.symbol (some "root")) left right).consulted := by
  refine ⟨?_, ?_, ?_, ?_⟩
  · intro r other h
    exact h.render_eq
  · intro settings name fragment h
    exact (Agree.overriding settings name fragment h).render_eq
  · intro name hname operand
    simp only [List.mem_cons, List.not_mem_nil, or_false] at hname
    obtain rfl | rfl | rfl | rfl := hname <;> simp [Value.consulted, Value.appliedTags]
  · intro left right
    simp [Value.consulted]

/-- The items of the norm have a separator of their own and no character outside ASCII, and the
entry for the norm does not count. -/
theorem render_agree_norm :
    let r := ofSettings {}
    let other := ofSettings
      { separator := "; ", symbols := [("norm", "\\N"), ("beta", "b")], legacyAccents := true }
    let items := Value.sequence [.literal "x", .symbol (some "alpha")] (some ", ")
    let tree := Value.unary (.symbol (some "norm")) items
    r.Agree other tree ∧ other.render tree = r.render tree := by
  intro r other items tree
  have hleaf : ∀ leaf : Value, leaf.children = [] → ∀ node, leaf.Contains node → node = leaf := by
    intro leaf hleaf
    rw [Value.forall_contains, hleaf]
    exact ⟨rfl, nofun⟩
  have hnodes : ∀ node, tree.Contains node →
      node = tree ∨ node = items ∨ node = .literal "x" ∨ node = .symbol (some "alpha") := by
    rw [Value.forall_contains]
    refine ⟨Or.inl rfl, List.forall_mem_singleton.mpr ?_⟩
    rw [Value.forall_contains]
    refine ⟨Or.inr (Or.inl rfl), List.forall_mem_cons.mpr ⟨?_, List.forall_mem_singleton.mpr ?_⟩⟩
    · intro node hnode
      exact Or.inr (Or.inr (Or.inl (hleaf _ rfl node hnode)))
    · intro node hnode
      exact Or.inr (Or.inr (Or.inr (hleaf _ rfl node hnode)))
  have hagree : r.Agree other tree := by
    refine ⟨rfl, ?_, ?_, Or.inr ?_, Or.inr ?_⟩
    · intro node hnode
      obtain rfl | rfl | rfl | rfl := hnodes node hnode <;> decide
    · intro node hnode
      obtain rfl | rfl | rfl | rfl := hnodes node hnode <;> decide
    · intro inner separator hnode hlength
      have hsequence := hnodes _ hnode
      simp [tree, items] at hsequence
      simp [hsequence]
    · rintro text (hnode | hnode)
      · have hliteral := hnodes _ hnode
        simp [tree, items] at hliteral
        subst hliteral
        decide
      · have htextRun := hnodes _ hnode
        simp [tree, items] at htextRun
  exact ⟨hagree, (render_agree tree).1 r other hagree⟩

end Renderer

end FormulaTex
