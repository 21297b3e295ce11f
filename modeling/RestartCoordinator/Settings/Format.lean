import RestartCoordinator.Settings.Ini
import RestartCoordinator.Settings.Json
import RestartCoordinator.Settings.Json5
import RestartCoordinator.Settings.Ron
import RestartCoordinator.Settings.Toml
import RestartCoordinator.Settings.Yaml
import RestartCoordinator.Toml.Moment
import RestartCoordinator.Toml.Reader
/-!
# Formats of settings files

The formats in which settings can be written, with the extensions that tell of them. Whatever the
format, a file holds a table.
-/
namespace RestartCoordinator

inductive SettingsFormat where
  | toml
  | json
  | yaml
  | ini
  | ron
  | json5
deriving DecidableEq, Repr

namespace SettingsFormat

/-- Formats by the extensions of their files. -/
def byExtension : List (String × SettingsFormat) :=
  [("toml", .toml), ("json", .json), ("yaml", .yaml), ("yml", .yaml), ("ini", .ini), ("ron", .ron),
    ("json5", .json5)]

/-- The value that is written in a text. -/
def value? (format : SettingsFormat) (text : String) : Option Setting :=
  match format with
  | .toml => ((Toml.parse? text).bind Toml.withMoments?).map Setting.ofToml
  | .json => (Json.parse? text).map Setting.ofJson
  | .yaml => do
    match ← Yaml.parse? text with
    | some v => return (← Setting.ofYaml? [] v).1
    | none => return .table []
  | .ini => (Ini.parse? text).map Setting.table
  | .ron => Ron.parse? text
  | .json5 => Json5.parse? text

/-- The text without a byte order mark. -/
def withoutMark (text : String) : String :=
  match text.toList with
  | c :: r => if c.toNat = 0xfeff then String.ofList r else text
  | [] => text

/-- The fields of the table that is written in the text of a file. -/
def fields? (format : SettingsFormat) (text : String) : Option (List (String × Setting)) :=
  match format.value? (withoutMark text) with
  | some (.table fs) => some fs
  | _ => none

end SettingsFormat
end RestartCoordinator
