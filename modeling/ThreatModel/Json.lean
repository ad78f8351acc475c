import ThreatModel.Json.Written
import ThreatModel.Number.Binary64
import ThreatModel.SortedMap

namespace ThreatModel

inductive Json.Number where
  | int (i : Int)
  | float (x : Binary64)
deriving DecidableEq, Inhabited

inductive Json where
  | null
  | bool (b : Bool)
  | number (n : Json.Number)
  | string (s : String)
  | array (items : List Json)
  | object (fields : List (String × Json))
deriving Inhabited

namespace Json

def int (i : Int) : Json := number (.int i)

def nat (n : Nat) : Json := number (.int n)

def field? (name : String) : Json → Option Json
  | object fields => fields.lookup name
  | _ => none

def string? : Json → Option String
  | string s => some s
  | _ => none

/-- The leading digits of a number that fit into 64 bits, and how many digits follow them. -/
def leadingDigits : Nat → List Char → Nat × Nat
  | n, [] => (n, 0)
  | n, d :: ds =>
    let m := 10 * n + Text.digitValue d
    if m < bitValues 64 then leadingDigits m ds else (n, ds.length + 1)

/-- `digits * 10 ^ e` in two roundings: the digits to a float, and then the product with a power of
ten or the quotient by one. Powers beyond the largest are divided off step by step. -/
def floatOfParts? : Nat → Binary64 → Int → Option Binary64
  | 0, _, _ => none
  | fuel + 1, x, e =>
    if x.isZero then some x
    else if 308 < e then none
    else if 0 ≤ e then do x.mul? (← Binary64.ofDecimal? false 1 e)
    else if -308 ≤ e then do x.div? (← Binary64.ofDecimal? false 1 (-e))
    else do
      let y ← x.div? (← Binary64.ofDecimal? false 1 308)
      floatOfParts? fuel y (e + 308)

def exponentLimit : Nat := bitValues 31 - 1

/-- The float that a number is read as, unless it is too large. Digits beyond 64 bits count with
their place only. -/
def Numeral.float? (n : Numeral) : Option Binary64 := do
  let (digits, dropped) := leadingDigits 0 n.whole
  let fraction := n.fraction.getD []
  let (digits, unread) := leadingDigits digits fraction
  let e : Int := dropped - (fraction.length - unread : Nat)
  let zero : Binary64 := ⟨n.negative, 0, Binary64.leastExponent⟩
  let e ← match n.exponent with
    | none => some (some e)
    | some (negative, ds) =>
      let size := Text.decimalValue ds
      if exponentLimit < size then (if digits = 0 || negative then some none else none)
      else some (some (if negative then e - size else e + size))
  match e with
  | none => some zero
  | some e =>
    let x ← floatOfParts? (e.natAbs / 308 + 2) (← Binary64.ofNat? digits) e
    some { x with negative := n.negative }

def Numeral.number? (n : Numeral) : Option Number :=
  match n.integer? with
  | some i => some (.int i)
  | none => n.float?.map .float

def depthLimit : Nat := 127

def text? (spelling : List Char) : Option String := (unescape? spelling).map .ofList

mutual

def ofWritten? (depth : Nat) : Written → Option Json
  | .null => some .null
  | .bool b => some (.bool b)
  | .number n => n.number?.map .number
  | .string s => (text? s).map .string
  | .array items =>
    match depth with
    | 0 => none
    | depth + 1 => (itemsOfWritten? depth items).map .array
  | .object fields =>
    match depth with
    | 0 => none
    | depth + 1 =>
      (fieldsOfWritten? depth fields).map fun fs => .object (SortedMap.ofList fs).entries

def itemsOfWritten? (depth : Nat) : List Written → Option (List Json)
  | [] => some []
  | v :: vs => do
    let x ← ofWritten? depth v
    let xs ← itemsOfWritten? depth vs
    pure (x :: xs)

def fieldsOfWritten? (depth : Nat) : List (List Char × Written) → Option (List (String × Json))
  | [] => some []
  | (k, v) :: fs => do
    let k ← text? k
    let x ← ofWritten? depth v
    let xs ← fieldsOfWritten? depth fs
    pure ((k, x) :: xs)

end

def ofMap {α : Type} (f : α → Json) (m : SortedMap String α) : Json :=
  object (m.entries.map fun (k, v) => (k, f v))

def ofIndexMap {α : Type} (f : α → Json) (m : SortedMap Nat α) : Json :=
  object (m.entries.map fun (i, v) => (.ofList (Text.decimal i), f v))

def ofStrings (ss : List String) : Json := array (ss.map string)

def ofText? (text : String) : Option Json := do
  ofWritten? depthLimit (← Written.ofText? text.toList)

end Json

end ThreatModel
