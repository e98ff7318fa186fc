import FormulaTex.Proofs.Places
import FormulaTex.Settings.File
import Mathlib.Data.List.Nodup
import Mathlib.Tactic.SplitIfs

/-!
# What validation lets through

Settings that are read from entries are sound: valid, and with each custom symbol once. Sound
settings are read back from their own entries as they are. So overrides laid over sound settings
decide the fields that they name, the last one given for a field, and all other fields stay.
-/

namespace FormulaTex

theorem Scalar.sameKey_str {key : Scalar} {name : String} :
    key.sameKey (.str name) = true ↔ key = .str name := by
  cases key <;> simp [Scalar.sameKey, Scalar.equals, Scalar.numeral?]

theorem field?_insertEntry (name key : String) (value : Value) (entries : List (Scalar × Value)) :
    field? name (insertEntry (.str key) value entries) =
      if name = key then some value else field? name entries := by
  induction entries with
  | nil =>
    by_cases h : key = name
    · simp [insertEntry, field?, h]
    · have hother : name ≠ key := fun heq => h heq.symm
      simp [insertEntry, field?, h, hother]
  | cons entry rest ih =>
    obtain ⟨k, v⟩ := entry
    by_cases hkey : k = .str key
    · subst hkey
      have hsame : (Scalar.str key).sameKey (.str key) = true := Scalar.sameKey_str.mpr rfl
      simp only [insertEntry, hsame, if_true]
      by_cases h : key = name
      · simp [field?, h]
      · have hother : name ≠ key := fun heq => h heq.symm
        simp [field?, h, hother]
    · have hsame : ¬ k.sameKey (.str key) = true := fun h => hkey (Scalar.sameKey_str.mp h)
      simp only [insertEntry, hsame, if_false, Bool.false_eq_true]
      by_cases h : k = .str name
      · have hother : name ≠ key := fun heq => hkey (heq ▸ h)
        simp [field?, h, hother]
      · have hbeq : (k == .str name) = false := by simpa using h
        simpa [field?, List.find?_cons, hbeq] using ih

theorem forall_insertEntry {p : Scalar → Prop} {key : Scalar} {value : Value}
    {entries : List (Scalar × Value)} (hkey : p key) (hentries : ∀ entry ∈ entries, p entry.1) :
    ∀ entry ∈ insertEntry key value entries, p entry.1 := by
  induction entries with
  | nil => exact List.forall_mem_singleton.mpr hkey
  | cons entry rest ih =>
    obtain ⟨hentry, hrest⟩ := List.forall_mem_cons.mp hentries
    unfold insertEntry
    split_ifs
    · exact List.forall_mem_cons.mpr ⟨hentry, hrest⟩
    · exact List.forall_mem_cons.mpr ⟨hentry, ih hrest⟩

namespace Settings

open Text
open Layout (bind_eq_ok mapError_eq_ok)

/-- Settings as validation leaves them. -/
structure IsSound (settings : Settings) : Prop extends settings.IsValid where
  nodup : (settings.symbols.map Prod.fst).Nodup

theorem isSound_default : IsSound {} where
  toIsValid := isValid_default
  nodup := List.nodup_nil

section

variable {key value : String} {symbols : List (String × String)}

theorem keys_insertText :
    (insertText key value symbols).map Prod.fst =
      if key ∈ symbols.map Prod.fst then symbols.map Prod.fst
      else symbols.map Prod.fst ++ [key] := by
  induction symbols with
  | nil => rfl
  | cons entry rest ih =>
    obtain ⟨k, v⟩ := entry
    by_cases hkey : k = key
    · simp [insertText, hkey]
    · have hother : key ≠ k := fun h => hkey h.symm
      simp only [insertText, hkey, if_false, List.map_cons, List.mem_cons, hother, false_or, ih]
      split_ifs <;> rfl

theorem nodup_insertText (h : (symbols.map Prod.fst).Nodup) :
    ((insertText key value symbols).map Prod.fst).Nodup := by
  rw [keys_insertText]
  split_ifs with hkey
  · exact h
  · exact List.nodup_append.mpr ⟨h, List.nodup_singleton key, by
      intro k hk other hother heq
      rw [List.mem_singleton.mp hother] at heq
      exact hkey (heq ▸ hk)⟩

theorem insertText_of_notMem (h : key ∉ symbols.map Prod.fst) :
    insertText key value symbols = symbols ++ [(key, value)] := by
  induction symbols with
  | nil => rfl
  | cons entry rest ih =>
    obtain ⟨k, v⟩ := entry
    simp only [List.map_cons, List.mem_cons, not_or] at h
    have hother : k ≠ key := fun heq => h.1 heq.symm
    simp only [insertText, hother, if_false, ih h.2, List.cons_append]

theorem foldl_insertText (symbols : List (String × String)) {added : List (String × String)}
    (h : ((symbols ++ added).map Prod.fst).Nodup) :
    added.foldl (fun all entry => insertText entry.1 entry.2 all) symbols = symbols ++ added := by
  induction added generalizing symbols with
  | nil => simp
  | cons entry rest ih =>
    have hkey : entry.1 ∉ symbols.map Prod.fst := by
      rw [List.map_append, List.map_cons] at h
      exact fun hmem => (List.nodup_append.mp h).2.2 _ hmem _ List.mem_cons_self rfl
    rw [List.append_cons symbols entry rest] at h ⊢
    rw [List.foldl_cons, insertText_of_notMem hkey]
    exact ih _ h

theorem blankFragmentTags_isEmpty :
    (blankFragmentTags symbols).isEmpty = true ↔ ∀ entry ∈ symbols, allBlank entry.2 = false := by
  have hlength : (blankFragmentTags symbols).length =
      (symbols.filter fun entry => allBlank entry.2).length := by
    simp [blankFragmentTags]
  rw [List.isEmpty_iff_length_eq_zero, hlength, List.length_eq_zero_iff, List.filter_eq_nil_iff]
  simp

theorem checkSymbols_eq_ok {checked : List (String × String)} :
    checkSymbols symbols = .ok checked ↔
      checked = symbols ∧ (∀ entry ∈ symbols, allBlank entry.1 = false) ∧
        ∀ entry ∈ symbols, allBlank entry.2 = false := by
  unfold checkSymbols
  constructor
  · intro h
    dsimp only at h
    split_ifs at h with htags hfragments
    · cases h
    · have hblank : ∀ entry ∈ symbols, allBlank entry.1 = false := by
        simpa using htags
      exact ⟨(Except.ok.inj h).symm, hblank, blankFragmentTags_isEmpty.mp hfragments⟩
    · cases h
  · rintro ⟨rfl, htags, hfragments⟩
    have hany : ¬ (checked.any fun entry => allBlank entry.1) = true := by
      simpa using htags
    dsimp only
    rw [if_neg hany, if_pos (blankFragmentTags_isEmpty.mpr hfragments)]

end

/-- Whatever the entries are, no tag is taken twice. -/
theorem nodup_of_readSymbolEntries {entries : List (Scalar × Value)}
    {symbols : List (String × String)} (h : readSymbolEntries entries = .ok symbols) :
    (symbols.map Prod.fst).Nodup := by
  unfold readSymbolEntries at h
  dsimp only at h
  split_ifs at h
  rw [← Except.ok.inj h]
  apply List.foldlRecOn
    (motive := fun read : List (String × String) => (read.map Prod.fst).Nodup)
  · exact List.nodup_nil
  · intro read hread entry _
    split
    · exact nodup_insertText hread
    · exact hread

theorem readSymbolEntries_written {symbols : List (String × String)}
    (h : (symbols.map Prod.fst).Nodup) :
    readSymbolEntries (symbols.map fun entry => (.str entry.1, .str entry.2)) = .ok symbols := by
  have hread : (symbols.map fun entry => (Scalar.str entry.1, Value.str entry.2)).map readSymbol =
      symbols.map Except.ok := by
    rw [List.map_map]
    rfl
  have hissues : (symbols.map Except.ok).flatMap Checked.issues = [] := by
    simp [List.flatMap_map, Checked.issues]
  simp only [readSymbolEntries, hread, hissues, List.isEmpty_nil, if_true, List.foldl_map]
  exact congrArg Except.ok (foldl_insertText [] h)

theorem of_readSymbols {value : Value} {symbols : List (String × String)}
    (h : readSymbols value = .ok symbols) :
    ((∀ entry ∈ symbols, allBlank entry.1 = false) ∧ ∀ entry ∈ symbols, allBlank entry.2 = false) ∧
      (symbols.map Prod.fst).Nodup := by
  unfold readSymbols at h
  split at h
  · obtain ⟨read, hentries, hchecked⟩ := bind_eq_ok.mp h
    obtain ⟨rfl, hblank⟩ := checkSymbols_eq_ok.mp hchecked
    exact ⟨hblank, nodup_of_readSymbolEntries hentries⟩
  · cases h

theorem readField_eq_ok {α : Type} {entries : List (Scalar × Value)} {field : Field}
    {default x : α} {read : Value → Checked α} :
    readField entries field default read = .ok x ↔
      match field? field.name entries with
      | none => x = default
      | some value => read value = .ok x := by
  unfold readField
  cases field? field.name entries with
  | none => simp [eq_comm]
  | some value => exact mapError_eq_ok

theorem ofEntries_eq_ok {entries : List (Scalar × Value)} {settings : Settings} :
    ofEntries entries = .ok settings ↔
      readField entries .separator " " readText = .ok settings.separator ∧
      readField entries .maxDepth 100 readDepth = .ok settings.maxDepth ∧
      readField entries .symbols [] readSymbols = .ok settings.symbols ∧
      readField entries .legacyAccents false readTruth = .ok settings.legacyAccents ∧
      entries.filterMap entryIssue? = [] := by
  constructor
  · intro h
    unfold ofEntries at h
    dsimp only at h
    split at h
    · rename_i hseparator hdepth hsymbols haccents hothers
      cases h
      exact ⟨hseparator, hdepth, hsymbols, haccents, hothers⟩
    · cases h
  · rintro ⟨hseparator, hdepth, hsymbols, haccents, hothers⟩
    simp only [ofEntries, hseparator, hdepth, hsymbols, haccents, hothers]

theorem one_le_of_readDepth {value : Value} {depth : Nat} (h : readDepth value = .ok depth) :
    1 ≤ depth := by
  obtain ⟨n, -, h⟩ := bind_eq_ok.mp h
  split_ifs at h with hbelow
  · cases h
  · cases h
    omega

theorem readDepth_int {depth : Nat} (h : 1 ≤ depth) :
    readDepth (.scalar (.int depth)) = .ok depth := by
  change (if (depth : Int) < 1 then Checked.refuse .belowOne else .ok (depth : Int).toNat) =
    Except.ok depth
  rw [if_neg (by omega), Int.toNat_natCast]

theorem isSound_of_ofEntries {entries : List (Scalar × Value)} {settings : Settings}
    (h : ofEntries entries = .ok settings) : settings.IsSound := by
  obtain ⟨-, hdepth, hsymbols, -, -⟩ := ofEntries_eq_ok.mp h
  have hone : 1 ≤ settings.maxDepth := by
    rw [readField_eq_ok] at hdepth
    split at hdepth
    · omega
    · exact one_le_of_readDepth hdepth
  have hsound : ((∀ entry ∈ settings.symbols, allBlank entry.1 = false) ∧
      ∀ entry ∈ settings.symbols, allBlank entry.2 = false) ∧
        (settings.symbols.map Prod.fst).Nodup := by
    rw [readField_eq_ok] at hsymbols
    split at hsymbols
    · simp [hsymbols]
    · exact of_readSymbols hsymbols
  exact ⟨⟨hone, hsound.1.1, hsound.1.2⟩, hsound.2⟩

theorem isSound_of_ofValue {value : Value} {settings : Settings}
    (h : ofValue value = .ok settings) : settings.IsSound := by
  unfold ofValue at h
  split_ifs at h
  · rw [← Except.ok.inj h]
    exact isSound_default
  · split at h
    · have hsection := mapError_eq_ok.mp h
      unfold ofSection at hsection
      split at hsection
      · exact isSound_of_ofEntries hsection
      · cases hsection
    · cases h

theorem isSound_of_ofFile {octets : List UInt8} {settings : Settings}
    (h : ofFile octets = .ok settings) : settings.IsSound := by
  unfold ofFile at h
  split at h
  · cases h
  · obtain ⟨data, -, hdata⟩ := bind_eq_ok.mp h
    exact isSound_of_ofValue (mapError_eq_ok.mp hdata)

def laidOver (overrides : List (String × Value)) (entries : List (Scalar × Value)) :
    List (Scalar × Value) :=
  overrides.foldl (fun all (name, value) => insertEntry (.str name) value all) entries

theorem field?_laidOver (name : String) (overrides : List (String × Value))
    (entries : List (Scalar × Value)) :
    field? name (laidOver overrides entries) =
      (overrides.reverse.lookup name).or (field? name entries) := by
  induction overrides generalizing entries with
  | nil => rfl
  | cons override rest ih =>
    obtain ⟨key, value⟩ := override
    have hrest := ih (insertEntry (.str key) value entries)
    rw [field?_insertEntry] at hrest
    rw [List.reverse_cons, List.lookup_append, Option.or_assoc]
    refine hrest.trans ?_
    by_cases h : name = key
    · simp [h]
    · have hbeq : (name == key) = false := by simpa using h
      simp [h, List.lookup_cons, hbeq]

/-- Only the keys of the entries and the names of the overrides stand in the result. -/
theorem forall_laidOver {p : Scalar → Prop} {overrides : List (String × Value)}
    {entries : List (Scalar × Value)} (hoverrides : ∀ override ∈ overrides, p (.str override.1))
    (hentries : ∀ entry ∈ entries, p entry.1) :
    ∀ entry ∈ laidOver overrides entries, p entry.1 := by
  induction overrides generalizing entries with
  | nil => exact hentries
  | cons override rest ih =>
    obtain ⟨hoverride, hrest⟩ := List.forall_mem_cons.mp hoverrides
    exact ih hrest (forall_insertEntry hoverride hentries)

theorem filterMap_entryIssue? {entries : List (Scalar × Value)}
    (h : ∀ entry ∈ entries, ∃ field : Field, entry.1 = .str field.name) :
    entries.filterMap entryIssue? = [] := by
  rw [List.filterMap_eq_nil_iff]
  intro entry hentry
  obtain ⟨field, hfield⟩ := h entry hentry
  have hname : Field.isName field.name = true := by
    cases field <;> decide
  simp [entryIssue?, hfield, hname]

/-- What a field is under overrides: the last override for it, as it is read, or else its own. -/
def Decides {α : Type} (overrides : List (String × Value)) (field : Field)
    (read : Value → Checked α) (own x : α) : Prop :=
  match overrides.reverse.lookup field.name with
  | some value => read value = .ok x
  | none => x = own

theorem readField_laidOver {α : Type} {overrides : List (String × Value)} {settings : Settings}
    {field : Field} {written : Value} {own x default : α} {read : Value → Checked α}
    (hfield : field? field.name settings.entries = some written) (hown : read written = .ok own) :
    readField (laidOver overrides settings.entries) field default read = .ok x ↔
      Decides overrides field read own x := by
  unfold Decides
  rw [readField_eq_ok, field?_laidOver, hfield]
  cases overrides.reverse.lookup field.name with
  | some value => rfl
  | none => simp [hown, eq_comm]

/-- The entries of sound settings are read as the settings, apart from the fields overridden. -/
theorem ofEntries_laidOver {settings result : Settings} (h : settings.IsSound)
    {overrides : List (String × Value)}
    (hnames : ∀ override ∈ overrides, ∃ field : Field, override.1 = field.name) :
    ofEntries (laidOver overrides settings.entries) = .ok result ↔
      Decides overrides .separator readText settings.separator result.separator ∧
      Decides overrides .maxDepth readDepth settings.maxDepth result.maxDepth ∧
      Decides overrides .symbols readSymbols settings.symbols result.symbols ∧
      Decides overrides .legacyAccents readTruth settings.legacyAccents result.legacyAccents := by
  have hseparator : readText (.str settings.separator) = .ok settings.separator := rfl
  have hdepth := readDepth_int h.one_le_maxDepth
  have hsymbols : readSymbols (.map none (settings.symbols.map fun entry =>
      (.str entry.1, .str entry.2))) = .ok settings.symbols := by
    have hread := readSymbolEntries_written h.nodup
    have hchecked : checkSymbols settings.symbols = .ok settings.symbols :=
      checkSymbols_eq_ok.mpr ⟨rfl, h.tag_not_blank, h.fragment_not_blank⟩
    simp only [readSymbols, Value.entries?, hread]
    exact hchecked
  have haccents : readTruth (.scalar (.bool settings.legacyAccents)) =
      .ok settings.legacyAccents := rfl
  have hothers : (laidOver overrides settings.entries).filterMap entryIssue? = [] := by
    apply filterMap_entryIssue?
    apply forall_laidOver (p := fun key => ∃ field : Field, key = .str field.name)
    · intro override hoverride
      obtain ⟨field, hfield⟩ := hnames override hoverride
      exact ⟨field, congrArg Scalar.str hfield⟩
    · simp only [entries, List.forall_mem_cons, List.not_mem_nil, false_implies, implies_true,
        and_true]
      exact ⟨⟨.separator, rfl⟩, ⟨.maxDepth, rfl⟩, ⟨.symbols, rfl⟩, ⟨.legacyAccents, rfl⟩⟩
  rw [ofEntries_eq_ok, readField_laidOver rfl hseparator, readField_laidOver rfl hdepth,
    readField_laidOver rfl hsymbols, readField_laidOver rfl haccents]
  simp only [hothers, and_true]

theorem ofEntries_entries {settings : Settings} (h : settings.IsSound) :
    ofEntries settings.entries = .ok settings := by
  change ofEntries (laidOver [] settings.entries) = .ok settings
  rw [ofEntries_laidOver h (by simp)]
  exact ⟨rfl, rfl, rfl, rfl⟩

/-- Sound settings stay as they are without overrides, and with them are read again. -/
theorem merged_eq_ofEntries {settings : Settings} (h : settings.IsSound)
    (overrides : List (String × Value)) :
    settings.merged overrides = ofEntries (laidOver (given overrides) settings.entries) := by
  unfold merged derive
  cases given overrides with
  | nil => exact (ofEntries_entries h).symm
  | cons override rest =>
    change ((ofEntries (laidOver (override :: rest) settings.entries)).map _).map _ = _
    cases ofEntries (laidOver (override :: rest) settings.entries) <;> rfl

end Settings
end FormulaTex
