import FormulaTex.Settings.Validation
import FormulaTex.Yaml

/-!
# Files of settings

Settings are kept in a YAML file. A file that cannot be read, whose text is no YAML, or whose data
is no valid settings is refused.
-/

namespace FormulaTex
namespace Settings

inductive FileFault where
  | missing
  | notText (octets : List UInt8) (fault : Text.Utf8.Fault)
  | yaml (fault : Yaml.Fault)
  | settings (fault : Fault)

def ofText (text : String) : Except FileFault Settings := do
  let data ← (Yaml.read text.toList).mapError .yaml
  (ofValue data).mapError .settings

def ofFile (octets : List UInt8) : Except FileFault Settings :=
  match Text.Utf8.readText octets with
  | .error fault => .error (.notText octets fault)
  | .ok text => ofText text

end Settings
end FormulaTex
