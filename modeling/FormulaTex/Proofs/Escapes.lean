import FormulaTex.Proofs.Commands

/-!
# Failures that get past the command

The command that renders a document reports what is wrong with its settings, its document or its
tree by one message and fails. Some faults are not among those that it looks for, although they are
about the input alike: settings that are no YAML, octets that are no text, values that stand for
nothing, keys without an order, integers too long to be written, and a path where no file can be
written or that cannot be shown. Here they are told apart from the others, and nothing else gets
past.
-/

namespace FormulaTex

/-- Faults of a file of settings that the command does not look for. -/
inductive Settings.FileFault.Escapes : Settings.FileFault → Prop
  | malformed : Escapes (.yaml .malformed)
  | emptyNumber : Escapes (.yaml .emptyNumber)
  | noTruth (word : String) : Escapes (.yaml (.noTruth word))
  | noTimestamp : Escapes (.yaml .noTimestamp)
  | notText : Escapes (.yaml .notText)
  | codeTooLarge : Escapes (.yaml .codeTooLarge)
  | tooDeep : Escapes (.yaml .tooDeep)
  | surrogate : Escapes (.yaml .surrogate)

/-- Faults of a document that the command does not look for. -/
inductive Document.Fault.Escapes : Document.Fault → Prop
  | notText (octets : List UInt8) (fault : Text.Utf8.Fault) : Escapes (.notText octets fault)
  | jsonValue (fault : Json.Fault) : Escapes (.jsonValue fault)
  | yamlValue (fault : Yaml.Fault) : Escapes (.yamlValue fault)
  | unorderedKeys (fault : OrderFault) : Escapes (.layout (.unorderedKeys fault))
  | integerTooLong : Escapes (.layout .integerTooLong)
  | endless : Escapes (.layout .endless)

namespace CommandLine

open Text
open Layout (bind_eq_error mapError_eq_error)

namespace RenderOptions

/-- The file, if there is one, can be written, and the remark on it can be shown. -/
structure Finishes (options : RenderOptions) (around : Surroundings) : Prop where
  writable : ∀ path, options.output = some path → around.checkWritable path = .ok ()
  announced : options.IsAnnounced around.display

/-- What gets past the command. -/
inductive Escapes (options : RenderOptions) (around : Surroundings) : Prop
  | settings {fault : Settings.FileFault} (hformat : options.format ∈ formats)
      (h : fileSettings around.files options.settings = .error fault) (hfault : fault.Escapes)
  | document {base : Settings} {fault : Document.Fault} (hformat : options.format ∈ formats)
      (hbase : fileSettings around.files options.settings = .ok base)
      (h : options.tree? around = some (.error fault)) (hfault : fault.Escapes)
  /-- An operator that is not supported holds an integer too long to be named. -/
  | operator {base : Settings} {tree : Value} (hformat : options.format ∈ formats)
      (hbase : fileSettings around.files options.settings = .ok base)
      (htree : options.tree? around = some (.ok tree))
      (h : ((Renderer.ofSettings (options.overlaid base)).render tree).outcome =
        .error .unspellableOperator)
  | file {latex : String} (h : options.formula? around = some latex)
      (hfile : ¬ options.Finishes around)

end RenderOptions

namespace RenderOptions

section

variable {options : RenderOptions} {around : Surroundings} (hsound : options.IsSound around.files)
variable (htraces : options.showsTraces = false)
include hsound htraces

end

end RenderOptions

open RenderOptions

end CommandLine
end FormulaTex
