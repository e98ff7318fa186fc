import FormulaTex.CommandLine.Run
import FormulaTex.Proofs.Requests
import FormulaTex.Proofs.Validity

/-!
# All or nothing

The command that renders a document either ends with the whole formula, printed or written to a
file, or fails with nothing printed and nothing written. What it tells beside that does not matter
for the formula, with one exception: the remark that a file was written is marked-up text, and a
path with marks that are faulty makes the command fail after the file was written. Texts that name
a surrogate by an escape are no texts of characters, and what becomes of them is left open.
-/

namespace FormulaTex

namespace Text.Terminal

variable {text : List Char}

theorem withoutStyles_of_notMem (h : escape ∉ text) : withoutStyles [] text = text := by
  induction text with
  | nil => rfl
  | cons c rest ih =>
    rw [List.mem_cons, not_or] at h
    obtain ⟨hc, hrest⟩ := h
    have hcontinues : continuesStyle [] c = false := beq_false_of_ne (Ne.symm hc)
    have hends : endsStyle [] c = false := rfl
    simp only [withoutStyles, hcontinues, hends, Ne.symm hc, if_false, Bool.false_eq_true,
      List.nil_append, ih hrest]

theorem echoed_of_notMem (isTerminal : Bool) (h : escape ∉ text) :
    echoed isTerminal text = text := by
  cases isTerminal with
  | true => rfl
  | false => exact withoutStyles_of_notMem h

end Text.Terminal

namespace CommandLine

open Text

namespace RenderOptions

/-- Settings under those that the command line gives. -/
def overlaid (options : RenderOptions) (base : Settings) : Settings where
  separator := options.separator.getD base.separator
  maxDepth := options.maxDepth.getD base.maxDepth
  symbols := base.symbols
  legacyAccents := options.legacyAccents.getD base.legacyAccents

theorem isSound_of_fileSettings {files : Files} {path : Option Path} {settings : Settings}
    (h : fileSettings files path = .ok settings) : settings.IsSound := by
  unfold fileSettings at h
  split at h
  · rw [← Except.ok.inj h]
    exact Settings.isSound_default
  · split at h
    · exact Settings.isSound_of_ofFile h
    · cases h

theorem exists_field_of_mem_overrides {options : RenderOptions} {override : String × Value}
    (h : override ∈ Settings.given options.overrides) :
    ∃ field : Settings.Field, override.1 = field.name := by
  have hmem := (List.mem_filter.mp h).1
  simp only [overrides, List.mem_cons, List.not_mem_nil, or_false] at hmem
  obtain rfl | rfl | rfl := hmem
  · exact ⟨.separator, rfl⟩
  · exact ⟨.maxDepth, rfl⟩
  · exact ⟨.legacyAccents, rfl⟩

def override? (options : RenderOptions) : Settings.Field → Option Value
  | .separator => options.separator.map Value.str
  | .maxDepth => options.maxDepth.map fun depth => .scalar (.int depth)
  | .symbols => none
  | .legacyAccents => options.legacyAccents.map fun accents => .scalar (.bool accents)

theorem lookup_given (options : RenderOptions) (field : Settings.Field) :
    (Settings.given options.overrides).reverse.lookup field.name = options.override? field := by
  obtain ⟨-, -, -, -, separator, maxDepth, accents, -, -⟩ := options
  cases field <;> cases separator <;> cases maxDepth <;> cases accents <;> rfl

/-- The settings of the command line can be laid over all settings that a file can hold. -/
theorem merged_overrides {options : RenderOptions} {base : Settings} (h : base.IsSound)
    (hdepth : ∀ depth, options.maxDepth = some depth → 1 ≤ depth) :
    base.merged options.overrides = .ok (options.overlaid base) := by
  have hnames : ∀ override ∈ Settings.given options.overrides,
      ∃ field : Settings.Field, override.1 = field.name :=
    fun override hoverride => exists_field_of_mem_overrides hoverride
  rw [Settings.merged_eq_ofEntries h, Settings.ofEntries_laidOver h hnames]
  simp only [Settings.Decides, lookup_given]
  refine ⟨?_, ?_, rfl, ?_⟩
  · cases hseparator : options.separator <;>
      simp [override?, overlaid, hseparator, Settings.readText]
  · cases hgiven : options.maxDepth with
    | none => simp [override?, overlaid, hgiven]
    | some depth =>
      simpa [override?, overlaid, hgiven] using Settings.readDepth_int (hdepth depth hgiven)
  · cases haccents : options.legacyAccents <;>
      simp [override?, overlaid, haccents, Settings.readTruth]

theorem settingsInUse_eq {options : RenderOptions} {files : Files} (h : options.IsSound files) :
    options.settingsInUse files = (fileSettings files options.settings).map options.overlaid := by
  unfold settingsInUse
  cases hbase : fileSettings files options.settings with
  | error fault => rfl
  | ok base =>
    have hmerged := merged_overrides (isSound_of_fileSettings hbase) h.one_le_maxDepth
    change (base.merged options.overrides).mapError _ = .ok (options.overlaid base)
    rw [hmerged]
    rfl

end RenderOptions

/-- Whether a command ends without text and without a file. -/
def Ending.IsFailure : Ending → Prop
  | refused _ _ | reported _ _ | left _ => True
  | _ => False

/-- Nothing has been printed or written, and the exit code says so. -/
structure Outcome.IsNothing (seen : Outcome) : Prop where
  exitCode : seen.exitCode ≠ 0
  output : seen.output = ""
  written : seen.written = none

theorem Run.leave_eq (display : Display) (state : Console.State) (remarks : String)
    (written : Option (Path × String)) (failures : Failures) :
    (leave display state remarks written failures).exitCode = 1 ∧
      (leave display state remarks written failures).output = "" ∧
      (leave display state remarks written failures).written = written := by
  unfold leave
  dsimp only
  split_ifs
  · exact ⟨rfl, rfl, rfl⟩
  · exact ⟨rfl, rfl, rfl⟩

theorem Run.isNothing_of_isFailure {run : Run} (display : Display) (h : run.ending.IsFailure) :
    (run.outcome display).IsNothing := by
  obtain ⟨state, remarks, ending⟩ := run
  cases ending with
  | refused page fault => exact ⟨nofun, rfl, rfl⟩
  | reported message failures => exact ⟨nofun, rfl, rfl⟩
  | left failures =>
    obtain ⟨hcode, houtput, hwritten⟩ := leave_eq display state
      (String.join (remarks.map (remarkText display state))) none failures
    exact ⟨by simp [outcome, hcode], houtput, hwritten⟩
  | _ => cases h

namespace RenderOptions

/-- The formula that the options ask for, if the settings and the document can be read and the tree
has a rendering. -/
def formula? (options : RenderOptions) (around : Surroundings) : Option String :=
  if options.format ∈ formats then do
    let base ← (fileSettings around.files options.settings).toOption
    let tree ← (← options.tree? around).toOption
    ((Renderer.ofSettings (options.overlaid base)).render tree).outcome.toOption
  else none

/-- The remark on a file that is written can be shown, if one is asked for. -/
def IsAnnounced (options : RenderOptions) (display : Display) : Prop :=
  ∀ path, options.output = some path →
    options.verbosity = 0 ∨ ∃ remark, display.unmarked (announcement path) = .ok remark

/-- A text of the settings or of the document has an escape that names a surrogate on its own. -/
inductive NamesSurrogate (options : RenderOptions) (around : Surroundings) : Prop
  | settings (h : fileSettings around.files options.settings = .error (.yaml .surrogate))
  | json (h : options.tree? around = some (.error (.jsonValue .surrogate)))
  | yaml (h : options.tree? around = some (.error (.yamlValue .surrogate)))

theorem isFailure_endingOf (failures : Failures) : (endingOf failures).IsFailure := by
  unfold endingOf
  split
  · trivial
  · split_ifs <;> trivial

theorem isFailure_runTree (options : RenderOptions) (around : Surroundings) {settings : Settings}
    {tree : Value} {fault : RenderFault}
    (h : ((Renderer.ofSettings settings).render tree).outcome = .error fault) :
    (options.runTree around settings tree).ending.IsFailure := by
  simp only [runTree, h]
  split_ifs
  · trivial
  · exact isFailure_endingOf _

section

variable {options : RenderOptions} {around : Surroundings}

theorem run_of_format (h : options.format ∉ formats) :
    options.run around = ⟨options.state, [], .refused .render (.refused ("Unsupported format '"
      ++ options.format ++ "', expected one of: " ++ ", ".intercalate formats ++ "."))⟩ := by
  simp only [run, h, not_false_iff, if_true]

def settingsEnding (words : Yaml.Words) (fault : Settings.FileFault) : Ending :=
  if isReported fault then
    .reported ("Invalid render configuration: " ++ (fault.failures words).hint.getD "None")
      (fault.failures words)
  else .left (fault.failures words)

theorem run_of_settings (hsound : options.IsSound around.files) (hformat : options.format ∈ formats)
    {fault : Settings.FileFault}
    (h : fileSettings around.files options.settings = .error fault) :
    options.run around = ⟨options.state, [], settingsEnding around.words fault⟩ := by
  have hsettings := settingsInUse_eq hsound
  rw [h] at hsettings
  simp only [run, hformat, not_true, if_false, hsettings, Except.map]
  rfl

variable {base : Settings}

theorem run_of_no_input (hsound : options.IsSound around.files) (hformat : options.format ∈ formats)
    (hbase : fileSettings around.files options.settings = .ok base)
    (h : options.tree? around = none) :
    options.run around = ⟨options.state, [], .refused .render
      (.refused "Provide an INPUT document or pipe a tree on standard input.")⟩ := by
  have hsettings := settingsInUse_eq hsound
  rw [hbase] at hsettings
  simp only [run, hformat, not_true, if_false, hsettings, Except.map, h]

theorem run_of_document (hsound : options.IsSound around.files) (hformat : options.format ∈ formats)
    (hbase : fileSettings around.files options.settings = .ok base) {fault : Document.Fault}
    (h : options.tree? around = some (.error fault)) :
    options.run around = ⟨options.state, [], endingOf (fault.failures around.words)⟩ := by
  have hsettings := settingsInUse_eq hsound
  rw [hbase] at hsettings
  simp only [run, hformat, not_true, if_false, hsettings, Except.map, h]

theorem run_of_tree (hsound : options.IsSound around.files) (hformat : options.format ∈ formats)
    (hbase : fileSettings around.files options.settings = .ok base) {tree : Value}
    (h : options.tree? around = some (.ok tree)) :
    options.run around = options.runTree around (options.overlaid base) tree := by
  have hsettings := settingsInUse_eq hsound
  rw [hbase] at hsettings
  simp only [run, hformat, not_true, if_false, hsettings, Except.map, h]

end

/-- A command that has a formula goes on to print or write it, and one that has none fails. -/
theorem ending_run {options : RenderOptions} {around : Surroundings}
    (h : options.IsSound around.files) :
    match options.formula? around with
    | some latex => (options.run around).ending = options.finish around latex
    | none => (options.run around).ending.IsFailure := by
  by_cases hformat : options.format ∈ formats
  · cases hbase : fileSettings around.files options.settings with
    | error fault =>
      rw [run_of_settings h hformat hbase]
      simp only [formula?, hformat, hbase, Except.toOption]
      unfold settingsEnding
      split_ifs <;> trivial
    | ok base =>
      cases htree : options.tree? around with
      | none =>
        rw [run_of_no_input h hformat hbase htree]
        simp only [formula?, hformat, hbase, htree, Except.toOption]
        trivial
      | some read =>
        cases read with
        | error fault =>
          rw [run_of_document h hformat hbase htree]
          simp only [formula?, hformat, hbase, htree, Except.toOption]
          exact isFailure_endingOf (fault.failures around.words)
        | ok tree =>
          rw [run_of_tree h hformat hbase htree]
          cases hrender : ((Renderer.ofSettings (options.overlaid base)).render tree).outcome with
          | error fault =>
            have hfailure := isFailure_runTree options around hrender
            simpa [formula?, hformat, hbase, htree, hrender, Except.toOption] using hfailure
          | ok latex =>
            simp [formula?, runTree, hformat, hbase, htree, hrender, Except.toOption]
  · rw [run_of_format hformat]
    simp only [formula?, hformat, if_false]
    trivial

theorem exists_of_formula? {options : RenderOptions} {around : Surroundings} {latex : String}
    (h : options.formula? around = some latex) :
    ∃ base tree, fileSettings around.files options.settings = .ok base ∧
      options.tree? around = some (.ok tree) := by
  unfold formula? at h
  split_ifs at h
  cases hbase : fileSettings around.files options.settings with
  | error fault => simp [hbase, Except.toOption] at h
  | ok base =>
    cases htree : options.tree? around with
    | none => simp [hbase, htree, Except.toOption] at h
    | some read =>
      cases read with
      | error fault => simp [hbase, htree, Except.toOption] at h
      | ok tree => exact ⟨base, tree, rfl, rfl⟩

/-- Where there is a formula, all texts have been read. -/
theorem not_namesSurrogate_of_formula? {options : RenderOptions} {around : Surroundings}
    {latex : String} (h : options.formula? around = some latex) :
    ¬ options.NamesSurrogate around := by
  obtain ⟨base, tree, hbase, htree⟩ := exists_of_formula? h
  intro hnames
  cases hnames with
  | settings hfile =>
    rw [hbase] at hfile
    cases hfile
  | json hread =>
    rw [htree] at hread
    cases hread
  | yaml hread =>
    rw [htree] at hread
    cases hread

end RenderOptions

/-- The whole formula is in the one place that the options name. The exit code is that of a success
unless the remark on the file fails. -/
structure Outcome.Gives (seen : Outcome) (options : RenderOptions) (display : Display)
    (latex : String) : Prop where
  exitCode : seen.exitCode = 0 ↔ options.IsAnnounced display
  output : seen.output = if options.output = none then latex ++ "\n" else ""
  written : seen.written = options.output.map fun path => (path, latex ++ "\n")

namespace RenderOptions

/-- How a command can end with a formula. -/
inductive Finishing (options : RenderOptions) (around : Surroundings) (latex : String) :
    Ending → Prop
  | printed (houtput : options.output = none) :
      Finishing options around latex (.printed (latex ++ "\n"))
  | denied {path : Path} {failure : Failure} (houtput : options.output = some path)
      (hwrite : around.checkWritable path = .error failure) :
      Finishing options around latex (.left [failure])
  | written {path : Path} {remark : Option String} (houtput : options.output = some path)
      (hwrite : around.checkWritable path = .ok ())
      (hannounced : options.IsAnnounced around.display) :
      Finishing options around latex (.written path (latex ++ "\n") remark)
  | unannounced {path : Path} {failure : Failure} (houtput : options.output = some path)
      (hwrite : around.checkWritable path = .ok ()) (hremark : ¬ options.IsAnnounced around.display)
      (hkind : failure.kind.isRendering = false) :
      Finishing options around latex (.unannounced path (latex ++ "\n") [failure])

theorem isAnnounced_iff {options : RenderOptions} {path : Path}
    (houtput : options.output = some path) (display : Display) :
    options.IsAnnounced display ↔
      options.verbosity = 0 ∨ ∃ remark, display.unmarked (announcement path) = .ok remark := by
  constructor
  · intro h
    exact h path houtput
  · intro h other hother
    obtain rfl : path = other := Option.some.inj (houtput.symm.trans hother)
    exact h

theorem finishing_finish (options : RenderOptions) (around : Surroundings) (latex : String) :
    Finishing options around latex (options.finish around latex) := by
  unfold finish
  cases houtput : options.output with
  | none => exact .printed houtput
  | some path =>
    have hannounced := isAnnounced_iff houtput around.display
    dsimp only
    cases hwrite : around.checkWritable path with
    | error failure => exact .denied houtput hwrite
    | ok _ =>
      dsimp only
      unfold announce
      split_ifs with hquiet
      · exact .written houtput hwrite (hannounced.mpr (Or.inl hquiet))
      · cases hremark : around.display.unmarked (announcement path) with
        | ok remark =>
          exact .written houtput hwrite (hannounced.mpr (Or.inr ⟨remark, hremark⟩))
        | error message =>
          refine .unannounced houtput hwrite ?_ rfl
          rw [hannounced, hremark]
          rintro (hnone | ⟨remark, hshown⟩)
          · exact hquiet hnone
          · cases hshown

/-- A command that goes on with a formula gives it, if its file can be written. -/
theorem gives_of_finish {options : RenderOptions} {around : Surroundings} {run : Run}
    {latex : String}
    (hwritable : ∀ path, options.output = some path → around.checkWritable path = .ok ())
    (h : run.ending = options.finish around latex) :
    (run.outcome around.display).Gives options around.display latex := by
  have hfinishing := finishing_finish options around latex
  rw [← h] at hfinishing
  obtain ⟨state, remarks, ending⟩ := run
  cases hfinishing with
  | printed houtput => constructor <;> simp [Run.outcome, houtput, IsAnnounced]
  | denied houtput hwrite =>
    rw [hwritable _ houtput] at hwrite
    cases hwrite
  | written houtput hwrite hannounced =>
    constructor <;> simp [Run.outcome, houtput, hannounced]
  | @unannounced path failure houtput hwrite hremark hkind =>
    obtain ⟨hcode, hnone, hwritten⟩ := Run.leave_eq around.display state
      (String.join (remarks.map (Run.remarkText around.display state)))
      (some (path, latex ++ "\n")) [failure]
    constructor
    · simp [Run.outcome, hcode, hremark]
    · simp [Run.outcome, hnone, houtput]
    · simp [Run.outcome, hwritten, houtput]

theorem formula?_quiet (options : RenderOptions) (around : Surroundings) :
    options.quiet.formula? around = options.formula? around := rfl

end RenderOptions

open RenderOptions

section

variable {around : Surroundings} {arguments others : List String} {options more : RenderOptions}
variable {latex : String} {isTerminal : Bool}

theorem outcome_of_read
    (h : Request.read around.files around.directory arguments = .render options) :
    outcome around arguments = (options.run around).outcome around.display := by
  rw [outcome, h, Request.outcome]

/-- What arrives of a rendering is what is left of its output without a terminal's style codes. -/
theorem output_of_read
    (h : Request.read around.files around.directory arguments = .render options) :
    output isTerminal around arguments =
      String.ofList (Terminal.echoed isTerminal (outcome around arguments).output.toList) := by
  rw [output, h]
  rfl

theorem echoed_empty (isTerminal : Bool) :
    String.ofList (Terminal.echoed isTerminal "".toList) = "" := by
  cases isTerminal <;> rfl

theorem gives_or_nothing
    (hread : Request.read around.files around.directory arguments = .render options)
    (hwrite : ∀ path, options.output = some path → around.checkWritable path = .ok ()) :
    match options.formula? around with
    | some latex => (outcome around arguments).Gives options around.display latex
    | none => (outcome around arguments).IsNothing := by
  have hending := ending_run (isSound_of_read hread)
  rw [outcome_of_read hread]
  cases hlatex : options.formula? around with
  | none =>
    rw [hlatex] at hending
    exact Run.isNothing_of_isFailure around.display hending
  | some latex =>
    rw [hlatex] at hending
    exact gives_of_finish hwrite hending

theorem output_of_gives
    (hread : Request.read around.files around.directory arguments = .render options)
    (h : (outcome around arguments).Gives options around.display latex) :
    output isTerminal around arguments = if options.output = none
      then String.ofList (Terminal.echoed isTerminal (latex ++ "\n").toList) else "" := by
  rw [output_of_read hread, h.output]
  split_ifs
  · rfl
  · exact echoed_empty isTerminal

theorem output_of_isNothing
    (hread : Request.read around.files around.directory arguments = .render options)
    (h : (outcome around arguments).IsNothing) : output isTerminal around arguments = "" := by
  rw [output_of_read hread, h.output]
  exact echoed_empty isTerminal

/-- Command lines that ask for the same but for how much is told do the same. -/
theorem same_of_quiet
    (hread : Request.read around.files around.directory arguments = .render options)
    (hother : Request.read around.files around.directory others = .render more)
    (hquiet : more.quiet = options.quiet)
    (hwrite : ∀ path, options.output = some path → around.checkWritable path = .ok ()) :
    output isTerminal around others = output isTerminal around arguments ∧
      (outcome around others).written = (outcome around arguments).written ∧
      ((more.IsAnnounced around.display ↔ options.IsAnnounced around.display) →
        ((outcome around others).exitCode = 0 ↔ (outcome around arguments).exitCode = 0)) := by
  have hformula : more.formula? around = options.formula? around := by
    rw [← formula?_quiet more, hquiet, formula?_quiet]
  have hfile : more.output = options.output := by
    change more.quiet.output = options.quiet.output
    rw [hquiet]
  have hone := gives_or_nothing hread hwrite
  have htwo := gives_or_nothing hother (hfile ▸ hwrite)
  rw [hformula] at htwo
  cases hlatex : options.formula? around with
  | none =>
    rw [hlatex] at hone htwo
    refine ⟨?_, htwo.written.trans hone.written.symm, ?_⟩
    · rw [output_of_isNothing hother htwo, output_of_isNothing hread hone]
    · simp [htwo.exitCode, hone.exitCode]
  | some latex =>
    rw [hlatex] at hone htwo
    refine ⟨?_, ?_, ?_⟩
    · rw [output_of_gives hother htwo, output_of_gives hread hone, hfile]
    · rw [htwo.written, hone.written, hfile]
    · intro hannounced
      rw [htwo.exitCode, hone.exitCode, hannounced]

end

/-- A command line for a rendering that is refused fails with nothing done. One that is accepted,
with a file that can be written if it names one, gives the whole formula or nothing. How much it
asks to be told makes no difference to that, and the exit code tells the two apart, but for a remark
that cannot be shown. Away from a terminal, a formula that is printed loses its style codes, if it
has any. -/
theorem render_all_or_nothing (isTerminal : Bool) (around : Surroundings)
    (arguments : List String) :
    (∀ page fault, Request.read around.files around.directory arguments = .refuse page fault →
      (outcome around arguments).IsNothing ∧ output isTerminal around arguments = "") ∧
    ∀ options, Request.read around.files around.directory arguments = .render options →
      ¬ options.NamesSurrogate around →
      (∀ path, options.output = some path → around.checkWritable path = .ok ()) →
      (∀ latex, options.formula? around = some latex →
        (outcome around arguments).Gives options around.display latex ∧
        (output isTerminal around arguments = if options.output = none
          then String.ofList (Terminal.echoed isTerminal (latex ++ "\n").toList) else "") ∧
        (options.output = none → isTerminal = true ∨ Terminal.escape ∉ latex.toList →
          output isTerminal around arguments = latex ++ "\n")) ∧
      (options.formula? around = none →
        (outcome around arguments).IsNothing ∧ output isTerminal around arguments = "") ∧
      (∀ others more, Request.read around.files around.directory others = .render more →
        more.quiet = options.quiet →
        output isTerminal around others = output isTerminal around arguments ∧
        (outcome around others).written = (outcome around arguments).written ∧
        ((more.IsAnnounced around.display ↔ options.IsAnnounced around.display) →
          ((outcome around others).exitCode = 0 ↔ (outcome around arguments).exitCode = 0))) ∧
      ∀ name ∈ talkNames, ∀ rest, arguments = "render" :: rest →
        (Request.read around.files around.directory ("render" :: name :: rest)).quiet =
          .render options.quiet := by
  constructor
  · intro page fault hread
    have houtcome : outcome around arguments = .ofRefusal (page.refusal fault) := by
      rw [outcome, hread, Request.outcome]
    constructor
    · rw [houtcome]
      exact ⟨nofun, rfl, rfl⟩
    · rw [output, hread, houtcome]
      exact echoed_empty isTerminal
  · intro options hread _ hwrite
    have hgives := gives_or_nothing hread hwrite
    refine ⟨?_, ?_, ?_, ?_⟩
    · intro latex hlatex
      rw [hlatex] at hgives
      refine ⟨hgives, output_of_gives hread hgives, ?_⟩
      intro hprinted harrives
      rw [output_of_gives hread hgives, if_pos hprinted]
      rcases harrives with rfl | hplain
      · exact String.ofList_toList
      · have hline : Terminal.escape ∉ (latex ++ "\n").toList := by
          rw [String.toList_append, List.mem_append, not_or]
          exact ⟨hplain, by decide⟩
        rw [Terminal.echoed_of_notMem isTerminal hline, String.ofList_toList]
    · intro hnone
      rw [hnone] at hgives
      exact ⟨hgives, output_of_isNothing hread hgives⟩
    · intro others more hother hquiet
      exact same_of_quiet hread hother hquiet hwrite
    · rintro name hname rest rfl
      rw [quiet_read_talk _ _ hname, hread, Request.quiet]

/-- The separator comes from the file of settings, and the depth from the command line, which asks
for more than the file allows. -/
theorem render_all_or_nothing_overlaid :
    let octets := fun (text : String) => text.toList.map fun c => c.toNat.toUInt8
    let around : Surroundings := {
      files := ⟨[(["c"], octets "separator: ;\nmax_depth: 1\n"), (["t"], octets "[x, y]\n")], []⟩
      directory := []
      input := .none }
    let arguments := ["render", "-c", "c", "--max-depth", "2", "-o", "out/x.tex", "t"]
    let options : RenderOptions :=
      { input := some ["t"], output := some ["out", "x.tex"], settings := some ["c"],
        maxDepth := some 2 }
    Request.read around.files around.directory arguments = .render options ∧
      ¬ options.NamesSurrogate around ∧ options.formula? around = some "x;y" ∧
      (outcome around arguments).exitCode = 0 ∧ output false around arguments = "" ∧
      (outcome around arguments).written = some (["out", "x.tex"], "x;y\n") := by
  intro octets around arguments options
  have hread : Request.read around.files around.directory arguments = .render options := rfl
  have hwrite : ∀ path, options.output = some path → around.checkWritable path = .ok () := by
    rintro path ⟨⟩
    rfl
  have hlatex : options.formula? around = some "x;y" := by
    simp only [octets, around, options]
    decide +kernel
  have hwhole := not_namesSurrogate_of_formula? hlatex
  obtain ⟨hgives, -⟩ := (render_all_or_nothing false around arguments).2 options hread hwhole hwrite
  obtain ⟨⟨hcode, -, hwritten⟩, houtput, -⟩ := hgives "x;y" hlatex
  exact ⟨hread, hwhole, hlatex, hcode.mpr fun path _ => Or.inl rfl, houtput, hwritten⟩

/-- A path that closes a style makes the command fail with the file in its place, but only if the
command is asked to tell more. -/
theorem render_unannounced :
    let around : Surroundings := {
      files := ⟨[(["t"], [0x78, 0x0a])], []⟩
      directory := []
      input := .none }
    let quiet := outcome around ["render", "-o", "out[/x].tex", "t"]
    let verbose := outcome around ["render", "-v", "--debug", "-o", "out[/x].tex", "t"]
    quiet.exitCode = 0 ∧ quiet.written = some (["out[", "x].tex"], "x\n") ∧
      verbose.exitCode = 1 ∧ verbose.written = some (["out[", "x].tex"], "x\n") :=
  ⟨rfl, rfl, rfl, rfl⟩

end CommandLine
end FormulaTex
