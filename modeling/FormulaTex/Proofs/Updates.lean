import FormulaTex.Proofs.Validity

/-!
# Settings over time

Settings are never changed in place. New ones are read from data or from a file, or come from
overrides laid over those in use, and an assignment is always refused. A request that fails leaves
the settings in use as they were. So they stay sound over any sequence of requests, and what they
are written as is read back as themselves.
-/

namespace FormulaTex
namespace Settings

open Text
open Layout (mapError_eq_ok)

/-- A request for other settings than those in use. -/
inductive Update where
  | read (data : Value)
  /-- A file by its octets; there are none if the file is missing. -/
  | readFile (octets : Option (List UInt8))
  | overlay (overrides : List (String × Value))
  | assign (field : String) (value : Value)

namespace Update

def apply (settings : Settings) : Update → Except FileFault Settings
  | read data => (ofValue data).mapError .settings
  | readFile none => .error .missing
  | readFile (some octets) => ofFile octets
  | overlay overrides =>
    (settings.merged overrides).mapError fun issues => .settings (.invalid issues)
  | assign field value =>
    (settings.assign field value).mapError fun issues => .settings (.invalid issues)

end Update

def after (settings : Settings) (update : Update) : Settings :=
  match update.apply settings with
  | .ok next => next
  | .error _ => settings

/-- The settings in use after a sequence of requests. -/
def run (settings : Settings) (updates : List Update) : Settings :=
  updates.foldl after settings

variable {settings next : Settings} {update : Update}

theorem after_of_error {fault : FileFault} (h : update.apply settings = .error fault) :
    settings.after update = settings := by
  simp [after, h]

/-- The fault of an assignment does not depend on the field, nor on the value. -/
theorem apply_assign (settings : Settings) (field : String) (value : Value) :
    (Update.assign field value).apply settings =
      .error (.settings (.invalid [⟨[.name field], .immutable⟩])) := rfl

theorem isSound_of_merged (h : settings.IsSound) {overrides : List (String × Value)}
    (hmerged : settings.merged overrides = .ok next) : next.IsSound := by
  rw [merged_eq_ofEntries h] at hmerged
  exact isSound_of_ofEntries hmerged

theorem isSound_of_apply (h : settings.IsSound) (happly : update.apply settings = .ok next) :
    next.IsSound := by
  cases update with
  | read data => exact isSound_of_ofValue (mapError_eq_ok.mp happly)
  | readFile octets =>
    cases octets with
    | none => cases happly
    | some octets => exact isSound_of_ofFile happly
  | overlay overrides => exact isSound_of_merged h (mapError_eq_ok.mp happly)
  | assign field value =>
    rw [apply_assign] at happly
    cases happly

theorem isSound_after (h : settings.IsSound) (update : Update) :
    (settings.after update).IsSound := by
  unfold after
  split
  · next next happly => exact isSound_of_apply h happly
  · exact h

theorem isSound_run (h : settings.IsSound) (updates : List Update) :
    (settings.run updates).IsSound := by
  induction updates generalizing settings with
  | nil => exact h
  | cons update rest ih => exact ih (isSound_after h update)

theorem exists_not_blank {text : String} (h : allBlank text = false) :
    ∃ c ∈ text.toList, isBlank c = false := by
  simpa [allBlank] using h

/-- The settings in use after any sequence of requests, starting from the defaults. -/
theorem run_default (updates : List Update) :
    let settings := run {} updates
    1 ≤ settings.maxDepth ∧
      (∀ entry ∈ settings.symbols,
        (∃ c ∈ entry.1.toList, isBlank c = false) ∧ ∃ c ∈ entry.2.toList, isBlank c = false) ∧
      (∀ update fault, update.apply settings = .error fault → settings.after update = settings) ∧
      (∀ field value, ∃ fault, (Update.assign field value).apply settings = .error fault) ∧
      ofSection (.map none settings.entries) = .ok settings := by
  intro settings
  have hsound : settings.IsSound := isSound_run isSound_default updates
  refine ⟨hsound.one_le_maxDepth, ?_, ?_, ?_, ofEntries_entries hsound⟩
  · intro entry hentry
    exact ⟨exists_not_blank (hsound.tag_not_blank entry hentry),
      exists_not_blank (hsound.fragment_not_blank entry hentry)⟩
  · intro update fault hfault
    exact after_of_error hfault
  · intro field value
    exact ⟨_, apply_assign settings field value⟩

theorem run_default_refused :
    let data := Value.map none [(.str "render", .map none [(.str "max_depth", .scalar (.bool true)),
      (.str "symbols", .map none [(.str "plus", .str "\\oplus")])])]
    let settings := run {} [.read data]
    settings = { maxDepth := 1, symbols := [("plus", "\\oplus")] } ∧
      settings.after (.overlay [("separator", .str ""), ("max_depth", .scalar (.int 0))]) =
        settings := by
  intro data settings
  have h := run_default [.read data]
  exact ⟨by decide +kernel,
    h.2.2.1 (.overlay [("separator", .str ""), ("max_depth", .scalar (.int 0))]) _ rfl⟩

end Settings
end FormulaTex
