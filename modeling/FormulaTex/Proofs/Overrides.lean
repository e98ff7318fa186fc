import FormulaTex.Proofs.Updates

/-!
# Overrides one after another

Overrides laid over settings twice are the same as one set of overrides laid over them once, in
which the later ones go before the earlier ones. A field without an override that is given keeps its
value, and every override that is given counts, be it empty or false.

Settings that have been made are never changed. They are known by their places, and overrides add
new ones behind them, or lead to the same place if none is given.
-/

namespace FormulaTex
namespace Settings

open Layout (bind_eq_ok)

/-- The overrides of `later` that are given, and those of `earlier` for other names. -/
def layered (later earlier : List (String × Value)) : List (String × Value) :=
  given later ++ (given earlier).filter fun override => ((given later).lookup override.1).isNone

section

variable {α : Type} {name : String} {overrides later earlier : List (String × Value)}

theorem lookup_filter_fst (keep : String → Bool) (name : String) (entries : List (String × α)) :
    (entries.filter fun entry => keep entry.1).lookup name =
      if keep name then entries.lookup name else none := by
  induction entries with
  | nil => simp
  | cons entry rest ih =>
    obtain ⟨key, value⟩ := entry
    by_cases hname : name = key
    · subst hname
      cases hkeep : keep name <;> simp [hkeep, ih]
    · have hbeq : (name == key) = false := by simpa using hname
      cases hkeep : keep key <;> simp [List.lookup_cons, hkeep, hbeq, ih]

theorem lookup_reverse_eq_none {entries : List (String × α)} :
    entries.reverse.lookup name = none ↔ entries.lookup name = none := by
  simp only [List.lookup_eq_none_iff, List.mem_reverse]

theorem given_layered : given (layered later earlier) = layered later earlier := by
  simp [layered, given, List.filter_filter, Bool.and_comm]

theorem lookup_layered (name : String) (later earlier : List (String × Value)) :
    (layered later earlier).reverse.lookup name =
      ((given later).reverse.lookup name).or ((given earlier).reverse.lookup name) := by
  rw [layered, List.reverse_append, List.lookup_append, ← List.filter_reverse,
    lookup_filter_fst fun key => ((given later).lookup key).isNone]
  cases hlater : (given later).lookup name with
  | none =>
    rw [lookup_reverse_eq_none.mpr hlater]
    simp
  | some value =>
    cases hreverse : (given later).reverse.lookup name with
    | none =>
      rw [lookup_reverse_eq_none.mp hreverse] at hlater
      cases hlater
    | some value => simp

theorem mem_layered {override : String × Value} (h : override ∈ layered later earlier) :
    override ∈ given later ∨ override ∈ given earlier := by
  obtain hlater | hearlier := List.mem_append.mp h
  · exact .inl hlater
  · exact .inr (List.mem_filter.mp hearlier).1

theorem given_eq_nil : given overrides = [] ↔ ∀ override ∈ overrides, override.2 = .null := by
  simp only [given, List.filter_eq_nil_iff, Bool.not_eq_true', Bool.not_eq_false]
  constructor
  · intro h override hmem
    exact Value.eq_null_of_isNull (h override hmem)
  · intro h override hmem
    rw [h override hmem]
    rfl

end

section

variable {settings first next : Settings} {overrides later earlier : List (String × Value)}

theorem mem_of_field? {name : String} {value : Value} {entries : List (Scalar × Value)}
    (h : field? name entries = some value) : (.str name, value) ∈ entries := by
  induction entries with
  | nil => cases h
  | cons entry rest ih =>
    obtain ⟨key, item⟩ := entry
    rw [Layout.field?_cons] at h
    split_ifs at h with hkey
    · cases h
      rw [hkey]
      exact List.mem_cons_self
    · exact List.mem_cons_of_mem _ (ih h)

theorem exists_field_of_ofEntries {entries : List (Scalar × Value)}
    (h : ofEntries (laidOver overrides entries) = .ok next) {override : String × Value}
    (hmem : override ∈ overrides) : ∃ field : Field, override.1 = field.name := by
  obtain ⟨-, -, -, -, hothers⟩ := ofEntries_eq_ok.mp h
  obtain ⟨value, hvalue⟩ : ∃ value, overrides.reverse.lookup override.1 = some value := by
    cases hlookup : overrides.reverse.lookup override.1 with
    | some value => exact ⟨value, rfl⟩
    | none =>
      have hnone := List.lookup_eq_none_iff.mp hlookup override (List.mem_reverse.mpr hmem)
      simp at hnone
  have hfield : field? override.1 (laidOver overrides entries) = some value := by
    rw [field?_laidOver, hvalue]
    rfl
  have hissue := List.filterMap_eq_nil_iff.mp hothers _ (mem_of_field? hfield)
  simp only [entryIssue?, ite_eq_left_iff, Field.isName, List.any_eq_true] at hissue
  by_contra hnone
  have hunknown : some (Issue.mk [.name override.1] .unknownField) = none := by
    apply hissue
    rintro ⟨field, -, hname⟩
    exact hnone ⟨field, (beq_iff_eq.mp hname).symm⟩
  cases hunknown

/-- What overrides that are accepted make of each field. -/
structure Overrides (overrides : List (String × Value)) (settings next : Settings) : Prop where
  separator : Decides overrides .separator readText settings.separator next.separator
  maxDepth : Decides overrides .maxDepth readDepth settings.maxDepth next.maxDepth
  symbols : Decides overrides .symbols readSymbols settings.symbols next.symbols
  legacyAccents : Decides overrides .legacyAccents readTruth settings.legacyAccents
    next.legacyAccents

theorem merged_eq_ok (h : settings.IsSound) :
    settings.merged overrides = .ok next ↔
      (∀ override ∈ given overrides, ∃ field : Field, override.1 = field.name) ∧
        Overrides (given overrides) settings next := by
  rw [merged_eq_ofEntries h]
  constructor
  · intro hmerged
    have hnames : ∀ override ∈ given overrides, ∃ field : Field, override.1 = field.name :=
      fun override hmem => exists_field_of_ofEntries hmerged hmem
    obtain ⟨hseparator, hdepth, hsymbols, haccents⟩ := (ofEntries_laidOver h hnames).mp hmerged
    exact ⟨hnames, hseparator, hdepth, hsymbols, haccents⟩
  · rintro ⟨hnames, hfields⟩
    exact (ofEntries_laidOver h hnames).mpr
      ⟨hfields.separator, hfields.maxDepth, hfields.symbols, hfields.legacyAccents⟩

theorem readSymbols_nil : readSymbols (.map none []) = .ok [] := by
  have hchecked : checkSymbols [] = .ok [] := by
    rw [checkSymbols_eq_ok]
    simp
  exact hchecked

theorem Decides.of_lookup {α : Type} {field : Field} {read : Value → Checked α} {own x : α}
    {value : Value} (h : Decides overrides field read own x)
    (hlookup : overrides.reverse.lookup field.name = some value) : read value = .ok x := by
  unfold Decides at h
  rwa [hlookup] at h

theorem Decides.layered {α : Type} {field : Field} {read : Value → Checked α} {own x y : α}
    (hearlier : Decides (given earlier) field read own x)
    (hlater : Decides (given later) field read x y) :
    Decides (layered later earlier) field read own y := by
  unfold Decides at *
  rw [lookup_layered]
  cases hl : (given later).reverse.lookup field.name with
  | some value => simpa [hl] using hlater
  | none =>
    rw [hl] at hlater
    obtain rfl : y = x := hlater
    simpa using hearlier

theorem merged_layered (h : settings.IsSound) (hearlier : settings.merged earlier = .ok first)
    (hlater : first.merged later = .ok next) :
    settings.merged (layered later earlier) = .ok next := by
  obtain ⟨hearlierNames, hfirst⟩ := (merged_eq_ok h).mp hearlier
  obtain ⟨hlaterNames, hnext⟩ := (merged_eq_ok (isSound_of_merged h hearlier)).mp hlater
  refine (merged_eq_ok h).mpr ⟨?_, ?_⟩
  · intro override hmem
    rw [given_layered] at hmem
    exact (mem_layered hmem).elim (hlaterNames override) (hearlierNames override)
  · rw [given_layered]
    exact ⟨hfirst.separator.layered hnext.separator, hfirst.maxDepth.layered hnext.maxDepth,
      hfirst.symbols.layered hnext.symbols, hfirst.legacyAccents.layered hnext.legacyAccents⟩

end

section

variable {made : List Settings} {place : Fin made.length} {overrides : List (String × Value)}
variable {next : Settings}

theorem derive_of_given_eq_nil (h : given overrides = []) :
    derive made place overrides = .ok (place, made) := by
  rw [derive, h]

theorem merged_of_given_eq_nil {settings : Settings} (h : given overrides = []) :
    settings.merged overrides = .ok settings := by
  rw [merged, derive_of_given_eq_nil h]
  rfl

theorem derive_of_given_ne_nil (h : given overrides ≠ []) :
    derive made place overrides =
      ((made.get place).merged overrides).map fun next => (made.length, made ++ [next]) := by
  unfold merged derive
  cases hgiven : given overrides with
  | nil => exact absurd hgiven h
  | cons override rest =>
    change (ofEntries (laidOver (override :: rest) (made.get place).entries)).map _ =
      (((ofEntries (laidOver (override :: rest) (made.get place).entries)).map _).map _).map _
    cases ofEntries (laidOver (override :: rest) (made.get place).entries) <;> rfl

/-- The settings asked for stand at the resulting place, and all others where they were. -/
theorem exists_derive (h : (made.get place).merged overrides = .ok next) :
    ∃ result after, derive made place overrides = .ok (result, after) ∧
      after[result]? = some next ∧ made <+: after := by
  by_cases hgiven : given overrides = []
  · have hnext : made.get place = next :=
      Except.ok.inj ((merged_of_given_eq_nil hgiven).symm.trans h)
    refine ⟨place, made, derive_of_given_eq_nil hgiven, ?_, List.prefix_rfl⟩
    rw [← hnext]
    exact List.getElem?_eq_getElem place.isLt
  · refine ⟨made.length, made ++ [next], ?_, List.getElem?_concat_length, List.prefix_append _ _⟩
    rw [derive_of_given_ne_nil hgiven, h]
    rfl

theorem derive_eq_place :
    (∃ after, derive made place overrides = .ok (place, after)) ↔
      ∀ override ∈ overrides, override.2 = .null := by
  rw [← given_eq_nil]
  constructor
  · rintro ⟨after, hafter⟩
    by_contra hgiven
    rw [derive_of_given_ne_nil hgiven] at hafter
    cases hmerged : (made.get place).merged overrides with
    | error issues =>
      rw [hmerged] at hafter
      cases hafter
    | ok next =>
      rw [hmerged] at hafter
      have hplace : made.length = place := congrArg Prod.fst (Except.ok.inj hafter)
      -- a new place is none of those before
      omega
  · intro hgiven
    exact ⟨made, derive_of_given_eq_nil hgiven⟩

end

/-- Overrides laid over settings one after another: the last one for a field decides it. Without any
that is given, the settings come back themselves, and only then. -/
theorem merged_successively (made : List Settings) (place : Fin made.length)
    (h : (made.get place).IsSound) (earlier later : List (String × Value)) :
    (∀ first next, (made.get place).merged earlier = .ok first → first.merged later = .ok next →
      (made.get place).merged (layered later earlier) = .ok next) ∧
    (∀ next, (made.get place).merged earlier = .ok next →
      Overrides (given earlier) (made.get place) next ∧
      ((given earlier).reverse.lookup "separator" = some (.str "") → next.separator = "") ∧
      ((given earlier).reverse.lookup "symbols" = some (.map none []) → next.symbols = []) ∧
      ((given earlier).reverse.lookup "legacy_latex_accents" = some (.scalar (.bool false)) →
        next.legacyAccents = false) ∧
      ∃ result after, derive made place earlier = .ok (result, after) ∧
        after[result]? = some next ∧ made <+: after) ∧
    ((∀ override ∈ earlier, override.2 = .null) →
      (made.get place).merged earlier = .ok (made.get place) ∧
      derive made place earlier = .ok (place, made)) ∧
    ((∃ after, derive made place earlier = .ok (place, after)) ↔
      ∀ override ∈ earlier, override.2 = .null) := by
  refine ⟨?_, ?_, ?_, derive_eq_place⟩
  · intro first next hfirst hnext
    exact merged_layered h hfirst hnext
  · intro next hnext
    obtain ⟨-, hfields⟩ := (merged_eq_ok h).mp hnext
    refine ⟨hfields, ?_, ?_, ?_, exists_derive hnext⟩
    · intro hgiven
      exact (Except.ok.inj (hfields.separator.of_lookup hgiven)).symm
    · intro hgiven
      exact Except.ok.inj ((hfields.symbols.of_lookup hgiven).symm.trans readSymbols_nil)
    · intro hgiven
      exact (Except.ok.inj (hfields.legacyAccents.of_lookup hgiven)).symm
  · intro hnull
    have hgiven := given_eq_nil.mpr hnull
    exact ⟨merged_of_given_eq_nil hgiven, derive_of_given_eq_nil hgiven⟩

theorem merged_successively_falsy :
    let made : List Settings :=
      [{}, { separator := ", ", symbols := [("plus", "\\oplus")], legacyAccents := true }]
    let place : Fin made.length := 1
    let earlier : List (String × Value) :=
      [("separator", .str ""), ("max_depth", .null), ("symbols", .map none []),
        ("legacy_latex_accents", .scalar (.bool false))]
    let later : List (String × Value) := [("max_depth", .str "7"), ("separator", .null)]
    (made.get place).merged earlier = .ok { separator := "" } ∧
      (made.get place).merged (layered later earlier) = .ok { separator := "", maxDepth := 7 } ∧
      (¬ ∃ after, derive made place earlier = .ok (place, after)) ∧
      derive made place [("separator", .null)] = .ok (place, made) := by
  intro made place earlier later
  have hsound : (made.get place).IsSound :=
    { one_le_maxDepth := by decide
      tag_not_blank := by decide +kernel
      fragment_not_blank := by decide +kernel
      nodup := by decide }
  have hfirst : (made.get place).merged earlier = .ok { separator := "" } := by decide +kernel
  have hnext : ({ separator := "" } : Settings).merged later =
      .ok { separator := "", maxDepth := 7 } := by decide +kernel
  obtain ⟨hlayered, -, -, hplace⟩ := merged_successively made place hsound earlier later
  obtain ⟨-, -, hsame, -⟩ := merged_successively made place hsound [("separator", .null)] later
  refine ⟨hfirst, hlayered _ _ hfirst hnext, ?_, (hsame (by simp)).2⟩
  rw [hplace]
  intro hnull
  cases hnull ("separator", .str "") List.mem_cons_self

end Settings
end FormulaTex
