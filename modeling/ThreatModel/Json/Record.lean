import ThreatModel.Json

namespace ThreatModel.Json

/-- The key of a field: how it is spelled, and what that stands for. -/
structure Key where
  spelling : List Char
  text? : Option String

/-- One layer of a document, with parts that are documents again. A number that is no integer of 64
bits is no number for a record. -/
inductive Layer (σ : Type) where
  | null
  | bool (b : Bool)
  | integer (i : Int)
  | string (s : String)
  | array (items : List σ)
  | object (fields : List (Key × σ))
  | other

class Layered (σ : Type) where
  layer : σ → Layer σ

export Layered (layer)

instance : Layered Written where
  layer
    | .null => .null
    | .bool b => .bool b
    | .number n => n.integer?.elim .other .integer
    | .string s => (text? s).elim .other .string
    | .array items => .array items
    | .object fields => .object (fields.map fun (k, v) => (⟨k, text? k⟩, v))

instance : Layered Json where
  layer
    | .null => .null
    | .bool b => .bool b
    | .number (.int i) => .integer i
    | .number (.float _) => .other
    | .string s => .string s
    | .array items => .array items
    | .object fields => .object (fields.map fun (k, v) => (⟨k.toList, some k⟩, v))

variable {σ α : Type} [Layered σ]

def asString? (v : σ) : Option String :=
  match layer v with
  | .string s => some s
  | _ => none

def asInt64? (v : σ) : Option Int :=
  match layer v with
  | .integer i => if isSigned64 i then some i else none
  | _ => none

def asIndex? (v : σ) : Option Nat :=
  match layer v with
  | .integer i => if isUnsigned64 i then some i.toNat else none
  | _ => none

def asList? (item : σ → Option α) (v : σ) : Option (List α) :=
  match layer v with
  | .array items => items.mapM item
  | _ => none

def asOption? (item : σ → Option α) (v : σ) : Option (Option α) :=
  match layer v with
  | .null => some none
  | _ => (item v).map some

/-- A map from texts; of a repeated key the last value stays. -/
def asMap? (item : σ → Option α) (v : σ) : Option (SortedMap String α) :=
  match layer v with
  | .object fields =>
    (fields.mapM fun (k, v) => do pure (← Key.text? k, ← item v)).map SortedMap.ofList
  | _ => none

def Key.index? (k : Key) : Option Nat :=
  let n := Text.decimalValue k.spelling
  if k.spelling = Text.decimal n ∧ n < bitValues 64 then some n else none

def asIndexMap? (item : σ → Option α) (v : σ) : Option (SortedMap Nat α) :=
  match layer v with
  | .object fields =>
    (fields.mapM fun (k, v) => do pure (← Key.index? k, ← item v)).map SortedMap.ofList
  | _ => none

structure Fields (σ : Type) where
  get? : String → Option σ

/-- A record is an object, of which unknown fields are skipped and repeated ones refused, or an array
of its fields in order. -/
def asRecord? (names : List String) (v : σ) : Option (Fields σ) :=
  match layer v with
  | .object fields => do
    let given ← fields.mapM fun (k, v) => do pure (← Key.text? k, v)
    let known := (given.map (·.1)).filter names.contains
    if known.eraseDups.length = known.length then some ⟨fun name => given.lookup name⟩ else none
  | .array items =>
    if items.length ≤ names.length then
      some ⟨fun name => (names.zip items).lookup name⟩
    else none
  | _ => none

namespace Fields

def required? (fs : Fields σ) (name : String) (item : σ → Option α) : Option α :=
  (fs.get? name).bind item

def withDefault? (fs : Fields σ) (name : String) (item : σ → Option α) (default : α) : Option α :=
  match fs.get? name with
  | none => some default
  | some v => item v

end Fields

end ThreatModel.Json
