import ThreatModel.Config
import ThreatModel.Toml.Format

namespace ThreatModel

open Json

/-- The fields of a record. A record that is given as an array may go on after its last field. -/
def Toml.asRecord? (names : List String) : Toml → Option (Fields Toml)
  | .array items => Json.asRecord? names (Toml.array (items.take names.length))
  | v => Json.asRecord? names v

namespace Settings

def fieldNames : List String :=
  ["project", "output", "scan_exclude", "comment_markers", "strict", "libraries"]

def asFlag? (v : Toml) : Option Bool :=
  match v with
  | .bool b => some b
  | _ => none

def fromToml? (v : Toml) : Option Settings := do
  let fs ← Toml.asRecord? fieldNames v
  let strings (name : String) : Option (List String) := fs.withDefault? name (asList? asString?) []
  pure {
    project := ← fs.withDefault? "project" asString? "default"
    output := ← fs.withDefault? "output" (asOption? asString?) none
    excludes := ← strings "scan_exclude"
    markers := ← strings "comment_markers"
    strict := ← fs.withDefault? "strict" asFlag? false
    libraries := ← strings "libraries" }

def toJson (s : Settings) : Json :=
  .object ([("project", .string s.project)] ++
    (s.output.map fun path => ("output", Json.string path)).toList ++
    [("scan_exclude", .ofStrings s.excludes), ("comment_markers", .ofStrings s.markers),
      ("strict", .bool s.strict), ("libraries", .ofStrings s.libraries)])

end Settings

namespace ValidationSettings

def relaxLimit : Nat := 255

def asLevel? (v : Toml) : Option Nat := (asIndex? v).filter (· ≤ relaxLimit)

def fromToml? (v : Toml) : Option ValidationSettings := do
  let fs ← Toml.asRecord? ["relax", "schema"] v
  pure {
    relax := ← fs.withDefault? "relax" asLevel? 0
    schema := ← fs.withDefault? "schema" (asOption? asString?) none }

def toJson (s : ValidationSettings) : Json :=
  .object ([("relax", .nat s.relax)] ++
    (s.schema.map fun path => ("schema", Json.string path)).toList)

end ValidationSettings

namespace Config

def fromToml? (v : Toml) : Option Config := do
  let fs ← Toml.asRecord? ["settings", "validate"] v
  pure {
    settings := ← fs.withDefault? "settings" Settings.fromToml? {}
    validation := ← fs.withDefault? "validate" ValidationSettings.fromToml? {} }

def ofText? (text : String) : Option Config := (Toml.ofText? text).bind fromToml?

def toJson (c : Config) : Json :=
  .object [("settings", c.settings.toJson), ("validate", c.validation.toJson)]

end Config

end ThreatModel
