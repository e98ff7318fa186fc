import FormulaTex.CommandLine.Request
import FormulaTex.Proofs.Places
import Mathlib.Tactic.SplitIfs

/-!
# What command lines ask for

The options that a command line is read as can be relied on: the files that are read are there, and
a depth is at least one. How much a command tells is asked for by switches of its own, which change
nothing else of the request.
-/

namespace FormulaTex
namespace CommandLine

open Layout (bind_eq_ok map_eq_ok map_bind)

structure RenderOptions.IsSound (options : RenderOptions) (files : Files) : Prop where
  input : ∀ path, options.input = some path → (files.file? path).isSome = true
  settings : ∀ path, options.settings = some path → (files.file? path).isSome = true
  one_le_maxDepth : ∀ depth, options.maxDepth = some depth → 1 ≤ depth

section

variable {files : Files} {directory : Path} {options : RenderOptions}

theorem of_mapGiven {α : Type} {value : Option String} {read : String → Except UsageFault α} {x : α}
    (h : mapGiven value read = .ok (some x)) : ∃ text, value = some text ∧ read text = .ok x := by
  cases value with
  | none => cases h
  | some text =>
    obtain ⟨y, hread, hy⟩ := map_eq_ok.mp h
    cases hy
    exact ⟨text, rfl, hread⟩

theorem isSome_of_readableFile {parameter text : String} {path : Path}
    (h : readableFile files directory parameter text = .ok path) :
    (files.file? path).isSome = true := by
  unfold readableFile at h
  dsimp only at h
  split_ifs at h with hdirectory hfile
  cases h
  exact hfile

theorem one_le_of_readDepth {text : String} {depth : Nat} (h : readDepth text = .ok depth) :
    1 ≤ depth := by
  unfold readDepth at h
  split at h
  · cases h
  · split_ifs at h with hbelow
    cases h
    omega

theorem isSound_of_readRender {arguments : Arguments}
    (h : readRender files directory arguments = .ok options) : options.IsSound files := by
  simp only [readRender, bind_eq_ok] at h
  obtain ⟨input, hinput, output, -, settings, hsettings, depth, hdepth, -, -, h⟩ := h
  cases h
  constructor
  · rintro path rfl
    obtain ⟨text, -, hread⟩ := of_mapGiven hinput
    exact isSome_of_readableFile hread
  · rintro path rfl
    obtain ⟨text, -, hread⟩ := of_mapGiven hsettings
    exact isSome_of_readableFile hread
  · rintro depth rfl
    obtain ⟨text, -, hread⟩ := of_mapGiven hdepth
    exact one_le_of_readDepth hread

theorem of_readCommand {page : Page} {switches : List Switch} {arguments : List String}
    {read : Arguments → Except UsageFault Request}
    (h : readCommand page switches arguments read = .render options) :
    ∃ given, read given = .ok (.render options) := by
  unfold readCommand at h
  split at h
  · cases h
  · split_ifs at h
    split at h
    · rename_i given _ _ _ _ hrequest
      exact ⟨given, h ▸ hrequest⟩
    · cases h

theorem answerFirst?_ne_render {arguments : Arguments} :
    answerFirst? arguments ≠ some (.render options) := by
  unfold answerFirst?
  intro h
  obtain ⟨given, -, hgiven⟩ := Option.map_eq_some_iff.mp h
  split_ifs at hgiven

theorem readUnknown_ne_render {name : String} {rest : List String} :
    readUnknown name rest ≠ .render options := by
  unfold readUnknown
  dsimp only
  split_ifs
  · split
    · nofun
    · rename_i arguments _
      cases hanswer : answerFirst? arguments with
      | none => nofun
      | some answer =>
        rintro rfl
        exact answerFirst?_ne_render hanswer
  · nofun

theorem isSound_of_read {arguments : List String}
    (h : Request.read files directory arguments = .render options) : options.IsSound files := by
  unfold Request.read at h
  split_ifs at h
  split at h
  · cases h
  · split at h
    · rename_i hanswer
      exact absurd (h ▸ hanswer) answerFirst?_ne_render
    · cases h
    · obtain ⟨given, hgiven⟩ := of_readCommand h
      obtain ⟨read, hread, hsame⟩ := map_eq_ok.mp hgiven
      cases hsame
      exact isSound_of_readRender hread
    · obtain ⟨given, hgiven⟩ := of_readCommand h
      obtain ⟨read, -, hother⟩ := map_eq_ok.mp hgiven
      cases hother
    · exact absurd h readUnknown_ne_render

end

def RenderOptions.quiet (options : RenderOptions) : RenderOptions :=
  { options with verbosity := 0, showsTraces := false }

def Request.quiet : Request → Request
  | render options => render options.quiet
  | request => request

section

variable {given : Given} {switch : Switch} (arguments : Arguments)

def Arguments.before (given : Given) (arguments : Arguments) : Arguments :=
  { arguments with given := given :: arguments.given }

theorem value?_before (h : given.switch ≠ switch) :
    (arguments.before given).value? switch = arguments.value? switch := by
  have hother : (given.switch == switch) = false := by simpa using h
  simp [Arguments.value?, Arguments.before, List.find?_append, hother]

theorem has_before (h : given.switch ≠ switch) :
    (arguments.before given).has switch = arguments.has switch := by
  have hother : (given.switch == switch) = false := by simpa using h
  simp [Arguments.has, Arguments.before, hother]

theorem readAccents_before (h : given.switch ≠ accentsSwitch) :
    readAccents (arguments.before given) = readAccents arguments := by
  have hother : (given.switch == accentsSwitch) = false := by simpa using h
  simp [readAccents, Arguments.before, List.find?_append, hother]

end

def Given.IsTalk (given : Given) : Prop :=
  given.switch = verboseSwitch ∨ given.switch = tracesSwitch

theorem readRender_before (files : Files) (directory : Path) {given : Given} (arguments : Arguments)
    (h : given.IsTalk) :
    (readRender files directory (arguments.before given)).map RenderOptions.quiet =
      (readRender files directory arguments).map RenderOptions.quiet := by
  have hother : ∀ switch, switch ≠ verboseSwitch → switch ≠ tracesSwitch →
      given.switch ≠ switch := by
    rintro switch hverbose htraces rfl
    exact h.elim hverbose htraces
  have houtput := value?_before arguments (hother outputSwitch (by decide) (by decide))
  have hsettings := value?_before arguments (hother settingsSwitch (by decide) (by decide))
  have hdepth := value?_before arguments (hother depthSwitch (by decide) (by decide))
  have hformat := value?_before arguments (hother formatSwitch (by decide) (by decide))
  have hseparator := value?_before arguments (hother separatorSwitch (by decide) (by decide))
  have haccents := readAccents_before arguments (hother accentsSwitch (by decide) (by decide))
  have hpositional : (arguments.before given).positional = arguments.positional := rfl
  unfold readRender
  rw [houtput, hsettings, hdepth, hformat, hseparator, haccents, hpositional]
  simp only [map_bind]
  rfl

theorem read_render (files : Files) (directory : Path) (more : List String) :
    Request.read files directory ("render" :: more) =
      readCommand .render renderSwitches more fun arguments =>
        (readRender files directory arguments).map .render := by
  rfl

def talkNames : List String := ["-v", "--verbose", "--debug"]

theorem read_talk {name : String} (h : name ∈ talkNames) :
    ∃ given : Given, given.IsTalk ∧ ∀ more, Arguments.read renderSwitches true (name :: more) =
      (Arguments.read renderSwitches true more).map (Arguments.before given) := by
  have hmap : ∀ (given : Given) (read : Except UsageFault Arguments),
      (read >>= fun arguments => pure (arguments.before given)) =
        read.map (Arguments.before given) := by
    intro given read
    cases read <;> rfl
  simp only [talkNames, List.mem_cons, List.not_mem_nil, or_false] at h
  obtain rfl | rfl | rfl := h
  · exact ⟨⟨verboseSwitch, "-v", none⟩, Or.inl rfl, fun more => hmap _ _⟩
  · exact ⟨⟨verboseSwitch, "--verbose", none⟩, Or.inl rfl, fun more => hmap _ _⟩
  · exact ⟨⟨tracesSwitch, "--debug", none⟩, Or.inr rfl, fun more => hmap _ _⟩

/-- A switch that asks for more to be told leaves the request as it is otherwise. -/
theorem quiet_read_talk (files : Files) (directory : Path) {name : String} (h : name ∈ talkNames)
    (more : List String) :
    (Request.read files directory ("render" :: name :: more)).quiet =
      (Request.read files directory ("render" :: more)).quiet := by
  obtain ⟨given, htalk, hread⟩ := read_talk h
  have hhelp : given.switch ≠ helpSwitch := by
    obtain hverbose | htraces := htalk
    · rw [hverbose]
      decide
    · rw [htraces]
      decide
  rw [read_render, read_render, readCommand, readCommand, hread]
  cases Arguments.read renderSwitches true more with
  | error fault => rfl
  | ok arguments =>
    have hoptions := readRender_before files directory arguments htalk
    simp only [Except.map, has_before arguments hhelp]
    split_ifs
    · rfl
    · cases hbefore : readRender files directory (arguments.before given) <;>
        cases hafter : readRender files directory arguments <;>
        simp_all [Except.map, Request.quiet]

end CommandLine
end FormulaTex
