import FormulaTex.Proofs.Updates
import Mathlib.Data.List.Nodup

/-!
# Custom symbols over built-in ones

Custom entries that are put into a table one after another either take the place of an entry or
follow at the end. So the table lists the tags that it had in their old order, each with the custom
fragment if there is one, and then the new tags in the order in which they are given. A custom
fragment that is empty hides the built-in one, and its tag is spelled as a macro. Settings that are
accepted have no such fragment, so there a tag is unknown only if neither map has it.
-/

namespace FormulaTex
namespace SymbolTable

open Text

/-- The custom fragment of a tag, empty or not. The nameless tag has none. -/
def override? (custom : List (String × String)) (tag : Tag) : Option String :=
  tag.bind fun name => custom.lookup name

section

variable {table : SymbolTable} {custom rest : List (String × String)} {tag : Tag}
variable {name fragment : String}

theorem fst_ne_of_mem {α : Type} {key : α} {entries : List (α × String)}
    (h : key ∉ entries.map Prod.fst) {entry : α × String} (hentry : entry ∈ entries) :
    entry.1 ≠ key := by
  rintro rfl
  exact h (List.mem_map_of_mem hentry)

theorem put_of_notMem (h : tag ∉ table.map Prod.fst) :
    put tag fragment table = table ++ [(tag, fragment)] := by
  induction table with
  | nil => rfl
  | cons entry rest ih =>
    obtain ⟨t, f⟩ := entry
    simp only [List.map_cons, List.mem_cons, not_or] at h
    have hother : t ≠ tag := fun heq => h.1 heq.symm
    simp only [put, hother, if_false, ih h.2, List.cons_append]

/-- A table that has a tag once keeps the order of its entries. -/
theorem put_of_mem (hnodup : (table.map Prod.fst).Nodup) (h : tag ∈ table.map Prod.fst) :
    put tag fragment table =
      table.map fun entry => (entry.1, if entry.1 = tag then fragment else entry.2) := by
  induction table with
  | nil => cases h
  | cons entry rest ih =>
    obtain ⟨t, f⟩ := entry
    obtain ⟨hfresh, hrest⟩ := List.nodup_cons.mp hnodup
    by_cases ht : t = tag
    · subst ht
      have hsame : rest.map (fun entry => (entry.1, if entry.1 = t then fragment else entry.2)) =
          rest := by
        refine (List.map_congr_left ?_).trans (List.map_id rest)
        intro entry hentry
        rw [if_neg (fst_ne_of_mem hfresh hentry)]
        rfl
      simp only [put, if_true, List.map_cons, hsame]
    · have hmem : tag ∈ rest.map Prod.fst := by
        rcases List.mem_cons.mp h with heq | hmem
        · exact absurd heq.symm ht
        · exact hmem
      simp only [put, ht, if_false, List.map_cons, ih hrest hmem]

theorem map_fst_map (value : Tag × String → String) :
    (table.map fun entry => (entry.1, value entry)).map Prod.fst = table.map Prod.fst := by
  rw [List.map_map]
  rfl

theorem override?_cons :
    override? ((name, fragment) :: rest) tag =
      if tag = some name then some fragment else override? rest tag := by
  cases tag with
  | none => rfl
  | some other =>
    by_cases h : other = name
    · simp [override?, h]
    · have hbeq : (other == name) = false := by simpa using h
      simp [override?, List.lookup_cons, hbeq, h]

theorem override?_of_notMem (h : name ∉ custom.map Prod.fst) :
    override? custom (some name) = none := by
  rw [override?, Option.bind_some, List.lookup_eq_none_iff]
  intro entry hentry
  rw [bne_iff_ne]
  exact (fst_ne_of_mem h hentry).symm

/-- The first of several entries is the last to count, so it matters where the others are silent. -/
theorem getD_override?_cons (h : name ∉ rest.map Prod.fst) (own : String) :
    (override? rest tag).getD (if tag = some name then fragment else own) =
      (override? ((name, fragment) :: rest) tag).getD own := by
  rw [override?_cons]
  split_ifs with htag
  · rw [htag, override?_of_notMem h]
    rfl
  · rfl

/-- Custom entries over a table: the tags of the table keep their places, and new ones follow. -/
theorem foldl_put (htable : (table.map Prod.fst).Nodup) (hcustom : (custom.map Prod.fst).Nodup) :
    custom.foldl (fun table entry => put (some entry.1) entry.2 table) table =
      (table.map fun entry => (entry.1, (override? custom entry.1).getD entry.2)) ++
        (custom.filter fun entry => decide (some entry.1 ∉ table.map Prod.fst)).map
          fun entry => (some entry.1, entry.2) := by
  induction custom generalizing table with
  | nil =>
    have hsilent : ∀ entry : Tag × String, (override? [] entry.1).getD entry.2 = entry.2 := by
      rintro ⟨_ | _, _⟩ <;> rfl
    simp [hsilent]
  | cons entry rest ih =>
    obtain ⟨name, fragment⟩ := entry
    obtain ⟨hfresh, hrest⟩ := List.nodup_cons.mp hcustom
    rw [List.foldl_cons]
    -- The other entries are put into a table that has the same tags, or one more at its end.
    by_cases hmem : some name ∈ table.map Prod.fst
    · have htags : (table.map fun entry =>
          (entry.1, if entry.1 = some name then fragment else entry.2)).map Prod.fst =
            table.map Prod.fst := map_fst_map _
      rw [put_of_mem htable hmem, ih (htags ▸ htable) hrest, htags, List.map_map,
        List.filter_cons_of_neg (by simpa using hmem)]
      congr 1
      apply List.map_congr_left
      intro entry _
      exact congrArg (Prod.mk entry.1) (getD_override?_cons hfresh entry.2)
    · rw [put_of_notMem hmem]
      have htags : (table ++ [(some name, fragment)]).map Prod.fst =
          table.map Prod.fst ++ [some name] := by
        rw [List.map_append, List.map_singleton]
      have hnodup : (table.map Prod.fst ++ [some name]).Nodup :=
        List.nodup_append.mpr ⟨htable, List.nodup_singleton _, by
          intro t ht other hother heq
          rw [List.mem_singleton.mp hother] at heq
          exact hmem (heq ▸ ht)⟩
      rw [ih (htags ▸ hnodup) hrest, htags, List.map_append, List.map_singleton,
        List.filter_cons_of_pos (by simpa using hmem), List.map_cons, List.append_assoc,
        List.singleton_append]
      congr 1
      · apply List.map_congr_left
        intro entry hentry
        rw [override?_cons, if_neg (fst_ne_of_mem hmem hentry)]
      · congr 1
        · rw [override?_of_notMem hfresh]
          rfl
        · congr 1
          apply List.filter_congr
          intro entry hentry
          simp [fst_ne_of_mem hfresh hentry]

theorem get?_foldl_put (hcustom : (custom.map Prod.fst).Nodup) :
    (custom.foldl (fun table entry => put (some entry.1) entry.2 table) table).get? tag =
      (override? custom tag).or (table.get? tag) := by
  induction custom generalizing table with
  | nil => cases tag <;> rfl
  | cons entry rest ih =>
    obtain ⟨name, fragment⟩ := entry
    obtain ⟨hfresh, hrest⟩ := List.nodup_cons.mp hcustom
    rw [List.foldl_cons, ih hrest, get?_put, override?_cons]
    split_ifs with htag
    · rw [htag, override?_of_notMem hfresh]
      rfl
    · rfl

theorem mem_of_get? (h : table.get? tag = some fragment) : (tag, fragment) ∈ table := by
  obtain ⟨before, behind, rfl, -⟩ := List.lookup_eq_some_iff.mp h
  exact List.mem_append_right _ List.mem_cons_self

theorem lookup_of_mem {α : Type} [BEq α] [LawfulBEq α] {entries : List (α × String)} {key : α}
    (hnodup : (entries.map Prod.fst).Nodup) (h : (key, fragment) ∈ entries) :
    entries.lookup key = some fragment := by
  obtain ⟨before, behind, rfl⟩ := List.append_of_mem h
  rw [List.map_append, List.map_cons] at hnodup
  refine List.lookup_eq_some_iff.mpr ⟨before, behind, rfl, ?_⟩
  intro entry hentry
  rw [bne_iff_ne]
  exact ((List.nodup_append.mp hnodup).2.2 _ (List.mem_map_of_mem hentry) key
    List.mem_cons_self).symm

theorem get?_of_mem (hnodup : (table.map Prod.fst).Nodup) (h : (tag, fragment) ∈ table) :
    table.get? tag = some fragment :=
  lookup_of_mem hnodup h

theorem override?_of_mem (hnodup : (custom.map Prod.fst).Nodup) (h : (name, fragment) ∈ custom) :
    override? custom (some name) = some fragment :=
  lookup_of_mem hnodup h

theorem mem_of_override? (h : override? custom tag = some fragment) :
    ∃ entry ∈ custom, some entry.1 = tag ∧ entry.2 = fragment := by
  obtain ⟨name, rfl, hname⟩ := Option.bind_eq_some_iff.mp h
  obtain ⟨before, behind, rfl, -⟩ := List.lookup_eq_some_iff.mp hname
  exact ⟨(name, fragment), List.mem_append_right _ List.mem_cons_self, rfl, rfl⟩

theorem nodup_builtin : (builtin.map Prod.fst).Nodup := by
  decide +kernel

theorem builtin_not_blank : ∀ entry ∈ builtin, allBlank entry.2 = false := by
  decide +kernel

theorem ne_empty_of_not_blank (h : allBlank fragment = false) : fragment ≠ "" := by
  rintro rfl
  cases h

theorem layered_eq (hcustom : (custom.map Prod.fst).Nodup) :
    layered custom =
      (builtin.map fun entry => (entry.1, (override? custom entry.1).getD entry.2)) ++
        (custom.filter fun entry => decide (some entry.1 ∉ builtin.map Prod.fst)).map
          fun entry => (some entry.1, entry.2) :=
  foldl_put nodup_builtin hcustom

theorem map_fst_layered (hcustom : (custom.map Prod.fst).Nodup) :
    (layered custom).map Prod.fst =
      builtin.map Prod.fst ++ ((custom.map Prod.fst).map some).filter
        fun tag => decide (tag ∉ builtin.map Prod.fst) := by
  rw [layered_eq hcustom, List.map_append, map_fst_map, List.filter_map, List.filter_map,
    List.map_map, List.map_map]
  rfl

theorem nodup_layered (hcustom : (custom.map Prod.fst).Nodup) :
    ((layered custom).map Prod.fst).Nodup := by
  rw [map_fst_layered hcustom]
  refine List.nodup_append.mpr ⟨nodup_builtin, ?_, ?_⟩
  · exact (hcustom.map fun _ _ => Option.some.inj).filter _
  · rintro tag hbuiltin other hother rfl
    exact of_decide_eq_true (List.mem_filter.mp hother).2 hbuiltin

theorem get?_layered (hcustom : (custom.map Prod.fst).Nodup) (tag : Tag) :
    (layered custom).get? tag = (override? custom tag).or (builtin.get? tag) :=
  get?_foldl_put hcustom

theorem mem_map_fst_layered (hcustom : (custom.map Prod.fst).Nodup) :
    tag ∈ (layered custom).map Prod.fst ↔
      tag ∈ builtin.map Prod.fst ∨ tag ∈ custom.map fun entry => some entry.1 := by
  rw [map_fst_layered hcustom, List.mem_append, List.mem_filter, List.map_map, decide_eq_true_eq]
  by_cases hbuiltin : tag ∈ builtin.map Prod.fst
  · simp only [hbuiltin, true_or]
  · simp only [hbuiltin, false_or, not_false_eq_true, and_true]
    rfl

theorem mem_layered_of_mem (hcustom : (custom.map Prod.fst).Nodup)
    (h : (name, fragment) ∈ custom) : (some name, fragment) ∈ layered custom := by
  apply mem_of_get?
  rw [get?_layered hcustom, override?_of_mem hcustom h, Option.some_or]

/-- An entry of the table is a custom one, or a built-in one. -/
theorem mem_layered (hcustom : (custom.map Prod.fst).Nodup) {entry : Tag × String}
    (h : entry ∈ layered custom) :
    (∃ own ∈ custom, some own.1 = entry.1 ∧ own.2 = entry.2) ∨ entry ∈ builtin := by
  have hget := get?_of_mem (nodup_layered hcustom) h
  rw [get?_layered hcustom] at hget
  rcases Option.or_eq_some_iff.mp hget with hown | ⟨-, hbuiltin⟩
  · exact .inl (mem_of_override? hown)
  · exact .inr (mem_of_get? hbuiltin)

theorem resolve_layered (hcustom : (custom.map Prod.fst).Nodup) (tag : Tag) :
    (layered custom).resolve tag =
      match override? custom tag with
      | some fragment => if fragment = "" then fallback tag else fragment
      | none => (builtin.get? tag).getD (fallback tag) := by
  rw [resolve, get?_layered hcustom]
  cases override? custom tag with
  | some fragment => simp only [Option.some_or, String.isEmpty_iff]
  | none =>
    rw [Option.none_or]
    cases hbuiltin : builtin.get? tag with
    | none => rfl
    | some fragment =>
      have hne := ne_empty_of_not_blank (builtin_not_blank _ (mem_of_get? hbuiltin))
      simp only [String.isEmpty_iff, hne, if_false, Option.getD_some]

/-- A tag is known if its fragment comes from an entry of the table that is not empty. -/
theorem isKnown_iff_mem (hnodup : (table.map Prod.fst).Nodup) (tag : Tag) :
    table.isKnown tag = true ↔
      ∃ fragment, (tag, fragment) ∈ table ∧ fragment ≠ "" ∧ table.resolve tag = fragment := by
  constructor
  · intro hknown
    unfold isKnown at hknown
    split at hknown
    · next fragment hget =>
      have hfragment : fragment.isEmpty = false := by simpa using hknown
      refine ⟨fragment, mem_of_get? hget, ?_, ?_⟩
      · rintro rfl
        cases hfragment
      · simp [resolve, hget, hfragment]
    · cases hknown
  · rintro ⟨fragment, hmem, hne, -⟩
    simpa [isKnown, get?_of_mem hnodup hmem] using hne

end

section

variable {settings : Settings} {tag : Tag}

theorem not_blank_of_mem_table (h : settings.IsSound) :
    ∀ entry ∈ settings.table, allBlank entry.2 = false := by
  intro entry hentry
  rcases mem_layered h.nodup hentry with ⟨own, hown, -, hfragment⟩ | hbuiltin
  · rw [← hfragment]
    exact h.fragment_not_blank own hown
  · exact builtin_not_blank entry hbuiltin

theorem isKnown_table (h : settings.IsSound) (tag : Tag) :
    settings.table.isKnown tag = true ↔
      tag ∈ builtin.map Prod.fst ∨ tag ∈ settings.symbols.map fun entry => some entry.1 := by
  rw [← mem_map_fst_layered h.nodup, List.mem_map]
  constructor
  · intro hknown
    obtain ⟨fragment, hmem, -⟩ := (isKnown_iff_mem (nodup_layered h.nodup) tag).mp hknown
    exact ⟨(tag, fragment), hmem, rfl⟩
  · rintro ⟨entry, hmem, rfl⟩
    have hget := get?_of_mem (nodup_layered h.nodup) hmem
    have hne := ne_empty_of_not_blank (not_blank_of_mem_table h entry hmem)
    simpa [isKnown, Settings.table, hget] using hne

/-- A tag has a fragment of the table, or else a macro, which starts with a backslash. -/
theorem exists_not_blank_resolve (h : settings.IsSound) (tag : Tag) :
    ∃ c ∈ (settings.table.resolve tag).toList, isBlank c = false := by
  cases hknown : settings.table.isKnown tag with
  | true =>
    obtain ⟨fragment, hmem, -, hresolve⟩ :=
      (isKnown_iff_mem (nodup_layered h.nodup) tag).mp hknown
    have hblank := not_blank_of_mem_table h (tag, fragment) hmem
    rw [Settings.table, hresolve]
    exact Settings.exists_not_blank hblank
  | false =>
    rw [resolve_of_not_isKnown hknown, fallback, String.toList_append]
    exact ⟨'\\', List.mem_append_left _ (by decide), by decide⟩

end

/-- A table with custom symbols lists each tag once: the built-in ones in their own order, with the
custom fragments in place, and then the others as they are given. A custom fragment goes before the
built-in one even if it is empty, and then neither is used. Settings that are accepted have a
fragment that can be seen for every tag that one of the maps has. -/
theorem layered_in_order (custom : List (String × String)) (h : (custom.map Prod.fst).Nodup) :
    ((layered custom).map Prod.fst).Nodup ∧
    layered custom =
      (builtin.map fun entry => (entry.1, (override? custom entry.1).getD entry.2)) ++
        (custom.filter fun entry => decide (some entry.1 ∉ builtin.map Prod.fst)).map
          (fun entry => (some entry.1, entry.2)) ∧
    (∀ tag, (layered custom).resolve tag =
      match override? custom tag with
      | some fragment => if fragment = "" then "\\" ++ tag.getD "" else fragment
      | none => (builtin.get? tag).getD ("\\" ++ tag.getD "")) ∧
    (∀ tag, (layered custom).isKnown tag = true ↔
      ∃ fragment, (tag, fragment) ∈ layered custom ∧ fragment ≠ "" ∧
        (layered custom).resolve tag = fragment) ∧
    layered [] = builtin ∧
    ∀ entries settings, Settings.ofEntries entries = .ok settings → ∀ tag,
      (settings.table.isKnown tag = false ↔
        tag ∉ builtin.map Prod.fst ∧ tag ∉ settings.symbols.map fun entry => some entry.1) ∧
      (∃ c ∈ (settings.table.resolve tag).toList, isBlank c = false) ∧
      settings.table.resolve none = "." := by
  refine ⟨nodup_layered h, layered_eq h, resolve_layered h, isKnown_iff_mem (nodup_layered h),
    rfl, ?_⟩
  intro entries settings haccepted tag
  have hsound := Settings.isSound_of_ofEntries haccepted
  refine ⟨?_, exists_not_blank_resolve hsound tag, ?_⟩
  · rw [← Bool.not_eq_true, isKnown_table hsound, not_or]
  · have hbuiltin : builtin.get? none = some "." := by decide
    have hnameless : override? settings.symbols none = none := rfl
    rw [Settings.table, resolve_layered hsound.nodup, hnameless, hbuiltin]
    rfl

/-- An empty fragment hides the plus sign, and the table of accepted settings has none. -/
theorem layered_in_order_hidden :
    let custom := [("plus", ""), ("nabla", "\\nabla"), ("minus", "\\ominus")]
    let entries : List (Scalar × Value) :=
      [(.str "symbols", .map none [(.str "nabla", .str "\\nabla")])]
    let settings : Settings := { symbols := [("nabla", "\\nabla")] }
    (custom.map Prod.fst).Nodup ∧
      (layered custom).resolve (some "plus") = "\\plus" ∧
      (layered custom).isKnown (some "minus") = true ∧
      (layered custom).map Prod.fst = builtin.map Prod.fst ++ [some "nabla"] ∧
      Settings.ofEntries entries = .ok settings ∧
      settings.table.isKnown (some "frown") = false ∧ settings.table.resolve none = "." := by
  intro custom entries settings
  have hnodup : (custom.map Prod.fst).Nodup := by decide
  have haccepted : Settings.ofEntries entries = .ok settings := by decide +kernel
  obtain ⟨-, htable, hresolve, hknown, -, hsettings⟩ := layered_in_order custom hnodup
  obtain ⟨hunknown, -, hnameless⟩ := hsettings entries settings haccepted (some "frown")
  refine ⟨hnodup, hresolve (some "plus"), ?_, ?_, haccepted, ?_, hnameless⟩
  · rw [hknown]
    exact ⟨"\\ominus", by decide +kernel, by decide, hresolve (some "minus")⟩
  · rw [htable]
    decide +kernel
  · rw [hunknown]
    decide +kernel

end SymbolTable
end FormulaTex
