import ThreatModel.Json
import ThreatModel.Schema.Regex

namespace ThreatModel

inductive Schema.Kind where
  | array
  | boolean
  | integer
  | null
  | number
  | object
  | string
deriving DecidableEq, Inhabited

structure Schema.Pattern where
  shown : String
  regex : Regex
deriving DecidableEq, Inhabited

mutual

inductive Schema where
  | ref (target : String)
  | rules (keywords : List Schema.Keyword)

inductive Schema.Keyword where
  | kind (kinds : List Schema.Kind)
  | values (vs : List Json)
  /-- A number is at least the bound, or above it if the bound is strict. -/
  | least (bound : Json.Number) (strict : Bool)
  | greatest (bound : Json.Number) (strict : Bool)
  | multiple (unit : Json.Number)
  | minLength (n : Nat)
  | maxLength (n : Nat)
  | pattern (p : Schema.Pattern)
  | items (each : Schema)
  | tuple (each : List Schema)
  | itemsAfter (n : Nat) (each : Schema)
  | noItemsAfter (n : Nat)
  | minItems (n : Nat)
  | maxItems (n : Nat)
  | uniqueItems
  | properties (named : List (String × Schema))
  | patterned (matched : List (Schema.Pattern × Schema))
  /-- Properties that are neither named nor matched. -/
  | others (names : List String) (patterns : List Schema.Pattern) (each : Schema)
  | closed (names : List String) (patterns : List Schema.Pattern)
  | noProperties
  | required (names : List String)
  | needs (name : String) (names : List String)
  /-- A property in whose presence the whole object follows a schema. -/
  | implies (name : String) (whole : Schema)
  | minProperties (n : Nat)
  | maxProperties (n : Nat)
  | all (parts : List Schema)
  | any (parts : List Schema)
  | exactlyOne (parts : List Schema)
  | never (shown : Json) (part : Schema)

end

instance : Inhabited Schema := ⟨.rules []⟩

namespace Schema.Kind

def word : Kind → String
  | array => "array"
  | boolean => "boolean"
  | integer => "integer"
  | null => "null"
  | number => "number"
  | object => "object"
  | string => "string"

def all : List Kind := [array, boolean, integer, null, number, object, string]

def ofWord? (w : String) : Option Kind := all.find? fun k => k.word = w

/-- A number with a point or an exponent is not an integer. -/
def admits : Kind → Json → Bool
  | array, .array _ => true
  | boolean, .bool _ => true
  | integer, .number (.int _) => true
  | null, .null => true
  | number, .number _ => true
  | object, .object _ => true
  | string, .string _ => true
  | _, _ => false

end Schema.Kind

end ThreatModel
