import ThreatModel.Json.Record

namespace ThreatModel

inductive Toml where
  | bool (b : Bool)
  | int (i : Int)
  | float (spelling : List Char)
  | time (spelling : List Char)
  | string (s : String)
  | array (items : List Toml)
  | table (entries : List (String × Toml))
deriving Inhabited

instance : Json.Layered Toml where
  layer
    | .bool b => .bool b
    | .int i => .integer i
    | .float _ => .other
    | .time _ => .other
    | .string s => .string s
    | .array items => .array items
    | .table entries => .object (entries.map fun (k, v) => (⟨k.toList, some k⟩, v))

end ThreatModel
