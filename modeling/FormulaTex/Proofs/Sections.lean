import FormulaTex.Proofs.Overrides

/-!
# A section for the settings

Settings may stand at the top of a document or in a section of it. In the section they are the same
settings, or are refused for the same issues, and a section in a section is refused. But a section
must not be empty: a document without data means the defaults, and a section without data does not.
-/

namespace FormulaTex
namespace Settings

open Layout (mapError_eq_ok)

/-- The data of a document that has nothing but a section. -/
def inSection (data : Value) : Value :=
  .map none [(.str "render", data)]

/-- A mapping without a section. -/
def IsTopLevel (data : Value) : Prop :=
  ∃ entries, data.entries? = some entries ∧ field? "render" entries = none

def fileData (octets : List UInt8) : Except FileFault Value :=
  match Text.Utf8.readText octets with
  | .error fault => .error (.notText octets fault)
  | .ok text => (Yaml.read text.toList).mapError .yaml

variable {data outer : Value} {entries : List (Scalar × Value)} {settings : Settings}
  {octets : List UInt8}

theorem ofFile_of_fileData (h : fileData octets = .ok data) :
    ofFile octets = (ofValue data).mapError .settings := by
  unfold fileData at h
  split at h
  · cases h
  · next text htext =>
    rw [ofFile, htext]
    simp only [ofText, h]
    rfl

theorem isNull_of_entries? (h : data.entries? = some entries) : data.isNull = false := by
  unfold Value.entries? at h
  split at h
  · rfl
  · rfl
  · cases h

theorem entries?_of_isNull (h : data.isNull = true) : data.entries? = none := by
  cases hentries : data.entries? with
  | none => rfl
  | some entries =>
    rw [isNull_of_entries? hentries] at h
    cases h

theorem ofSection_of_entries? (h : data.entries? = some entries) :
    ofSection data = ofEntries entries := by
  rw [ofSection, h]

theorem ofSection_of_isNull (h : data.isNull = true) :
    ofSection data = .error [⟨[], .notSettings⟩] := by
  rw [ofSection, entries?_of_isNull h]
  rfl

/-- A section is an entry that is no field. -/
theorem ofEntries_of_section {value : Value} (h : field? "render" entries = some value) :
    ofEntries entries ≠ .ok settings := by
  intro hok
  obtain ⟨-, -, -, -, hothers⟩ := ofEntries_eq_ok.mp hok
  have hissue : entryIssue? (.str "render", value) = some ⟨[.name "render"], .unknownField⟩ := rfl
  rw [List.filterMap_eq_nil_iff.mp hothers _ (mem_of_field? h)] at hissue
  cases hissue

theorem isTopLevel_of_ofSection (h : ofSection data = .ok settings) : IsTopLevel data := by
  cases hentries : data.entries? with
  | none =>
    rw [ofSection, hentries] at h
    cases h
  | some entries =>
    refine ⟨entries, hentries, ?_⟩
    rw [ofSection_of_entries? hentries] at h
    cases hsection : field? "render" entries with
    | none => rfl
    | some value => exact absurd h (ofEntries_of_section hsection)

theorem ofValue_of_entries? (h : data.entries? = some entries) :
    ofValue data = (ofSection ((field? "render" entries).getD data)).mapError .invalid := by
  simp only [ofValue, isNull_of_entries? h, h, Bool.false_eq_true, if_false]

theorem ofValue_of_section (h : outer.entries? = some [(.str "render", data)]) :
    ofValue outer = (ofSection data).mapError .invalid :=
  ofValue_of_entries? h

theorem ofValue_of_isTopLevel (h : IsTopLevel data) :
    ofValue data = (ofSection data).mapError .invalid := by
  obtain ⟨entries, hentries, hsection⟩ := h
  rw [ofValue_of_entries? hentries, hsection]
  rfl

theorem ofValue_of_isNull (h : data.isNull = true) : ofValue data = .ok {} := by
  rw [ofValue, if_pos h]

/-- Whatever stands in a section is accepted exactly if it is a mapping without a section that is
accepted at the top. -/
theorem ofValue_section_eq_ok (h : outer.entries? = some [(.str "render", data)]) :
    ofValue outer = .ok settings ↔ IsTopLevel data ∧ ofValue data = .ok settings := by
  rw [ofValue_of_section h]
  constructor
  · intro hok
    have htop := isTopLevel_of_ofSection (mapError_eq_ok.mp hok)
    exact ⟨htop, (ofValue_of_isTopLevel htop).trans hok⟩
  · rintro ⟨htop, hok⟩
    exact (ofValue_of_isTopLevel htop).symm.trans hok

/-- The section is transparent: a mapping without a section of its own gives the same outcome at the
top of a document and in the section. No data gives the defaults at the top and is refused in the
section. The same holds of files, and nothing else is accepted in a section. -/
theorem ofValue_section (data outer : Value) (h : outer.entries? = some [(.str "render", data)]) :
    (IsTopLevel data → ofValue outer = ofValue data) ∧
    (data.isNull = true →
      ofValue data = .ok {} ∧ ofValue outer = .error (.invalid [⟨[], .notSettings⟩])) ∧
    (∀ settings, ofValue outer = .ok settings ↔ IsTopLevel data ∧ ofValue data = .ok settings) ∧
    ∀ octets octets', fileData octets = .ok data → fileData octets' = .ok outer →
      (IsTopLevel data → ofFile octets' = ofFile octets) ∧
      (data.isNull = true → ofFile octets = .ok {} ∧
        ofFile octets' = .error (.settings (.invalid [⟨[], .notSettings⟩]))) := by
  have htop : IsTopLevel data → ofValue outer = ofValue data := fun htop =>
    (ofValue_of_section h).trans (ofValue_of_isTopLevel htop).symm
  have hempty : data.isNull = true →
      ofValue data = .ok {} ∧ ofValue outer = .error (.invalid [⟨[], .notSettings⟩]) := by
    intro hnull
    rw [ofValue_of_section h, ofSection_of_isNull hnull]
    exact ⟨ofValue_of_isNull hnull, rfl⟩
  refine ⟨htop, hempty, fun settings => ofValue_section_eq_ok h, ?_⟩
  intro octets octets' hdata houter
  rw [ofFile_of_fileData hdata, ofFile_of_fileData houter]
  refine ⟨fun hsame => by rw [htop hsame], ?_⟩
  intro hnull
  obtain ⟨hdefault, hrefused⟩ := hempty hnull
  rw [hdefault, hrefused]
  exact ⟨rfl, rfl⟩

def section? : Value → Option Value
  | .map none [(.str name, data)] => if name = "render" then some data else none
  | _ => none

def onlySeparator? : Value → Option String
  | .map none [(.str name, .str text)] => if name = "separator" then some text else none
  | _ => none

theorem eq_inSection {value : Value} (h : section? value = some data) : value = inSection data := by
  unfold section? at h
  split at h
  · split_ifs at h with hname
    rw [hname, Option.some.inj h, inSection]
  · cases h

theorem eq_of_onlySeparator? {value : Value} {text : String}
    (h : onlySeparator? value = some text) : value = .map none [(.str "separator", .str text)] := by
  unfold onlySeparator? at h
  split at h
  · split_ifs at h with hname
    rw [hname, Option.some.inj h]
  · cases h

theorem exists_of_fileData {α : Type} {part? : Value → Option α} {part : α}
    (h : (fileData octets).toOption.bind part? = some part) :
    ∃ value, fileData octets = .ok value ∧ part? value = some part := by
  cases hread : fileData octets with
  | error fault =>
    rw [hread] at h
    cases h
  | ok value =>
    rw [hread] at h
    exact ⟨value, rfl, h⟩

theorem ofValue_section_files :
    let data : Value := .map none [(.str "separator", .str ",")]
    let octets := fun text : String => text.toUTF8.toList
    (inSection data).entries? = some [(.str "render", data)] ∧ IsTopLevel data ∧
      ofFile (octets "render:\n  separator: ','\n") = ofFile (octets "separator: ','\n") := by
  intro data octets
  have htop : IsTopLevel data := ⟨_, rfl, rfl⟩
  have hbare : (fileData (octets "separator: ','\n")).toOption.bind onlySeparator? = some "," := by
    simp only [octets]
    decide +kernel
  have hfull : (fileData (octets "render:\n  separator: ','\n")).toOption.bind
      (fun value => (section? value).bind onlySeparator?) = some "," := by
    simp only [octets]
    decide +kernel
  obtain ⟨value, hdata, hvalue⟩ := exists_of_fileData hbare
  obtain ⟨outer, houter, hpart⟩ := exists_of_fileData hfull
  obtain ⟨inner, hinner, hseparator⟩ := Option.bind_eq_some_iff.mp hpart
  rw [eq_of_onlySeparator? hvalue] at hdata
  rw [eq_inSection hinner, eq_of_onlySeparator? hseparator] at houter
  obtain ⟨-, -, -, hfiles⟩ := ofValue_section data (inSection data) rfl
  exact ⟨rfl, htop, (hfiles _ _ hdata houter).1 htop⟩

/-- An empty section is not what an empty document is. -/
theorem not_ofValue_inSection :
    ¬ ∀ data, data.isNull = true ∨ IsTopLevel data →
      ∀ settings, ofValue (inSection data) = .ok settings ↔ ofValue data = .ok settings := by
  intro h
  have hdefault := (h .null (.inl rfl) {}).mpr rfl
  cases hdefault

end Settings
end FormulaTex
