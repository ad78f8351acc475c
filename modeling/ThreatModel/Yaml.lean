import ThreatModel.Number.Shortest

namespace ThreatModel

inductive Yaml.Float where
  | finite (x : Binary64)
  | infinite (negative : Bool)
  | notANumber
deriving DecidableEq, Inhabited

inductive Yaml where
  | null
  | bool (b : Bool)
  | int (i : Int)
  | float (x : Yaml.Float)
  | string (s : String)
  | sequence (items : List Yaml)
  | mapping (entries : List (Yaml × Yaml))
  | tagged (tag : String) (value : Yaml)
deriving Inhabited

namespace Yaml

def Float.text : Float → String
  | finite x => .ofList (x.text { plus := false })
  | infinite true => "-.inf"
  | infinite false => ".inf"
  | notANumber => ".nan"

/-- Zeros are the same whatever their sign, and what is not a number is the same as itself. -/
def Float.same : Float → Float → Bool
  | finite x, finite y => x = y || (x.isZero && y.isZero)
  | x, y => x = y

def scalarText? : Yaml → Option String
  | bool b => some (if b then "true" else "false")
  | int i => some (.ofList (Text.decimalInt i))
  | float x => some x.text
  | string s => some s
  | _ => none

def keyText? : Yaml → Option String
  | string s => some s
  | tagged _ v => keyText? v
  | _ => none

mutual

/-- Equality of keys, where the order of the entries of a mapping does not count. -/
def same : Yaml → Yaml → Bool
  | null, null => true
  | bool a, bool b => a = b
  | int a, int b => a = b
  | float a, float b => a.same b
  | string a, string b => a = b
  | sequence as, sequence bs => sameItems as bs
  | mapping as, mapping bs => as.length = bs.length && sameEntries as bs
  | tagged s a, tagged t b => s = t && same a b
  | _, _ => false

def sameItems : List Yaml → List Yaml → Bool
  | [], [] => true
  | a :: as, b :: bs => same a b && sameItems as bs
  | _, _ => false

def sameEntries : List (Yaml × Yaml) → List (Yaml × Yaml) → Bool
  | [], _ => true
  | (k, a) :: as, bs => bs.any (fun (l, b) => same k l && same a b) && sameEntries as bs

end

mutual

def depth : Yaml → Nat
  | sequence items => itemsDepth items + 1
  | mapping entries => entriesDepth entries + 1
  | tagged _ v => depth v
  | _ => 0

def itemsDepth : List Yaml → Nat
  | [] => 0
  | v :: vs => max (depth v) (itemsDepth vs)

def entriesDepth : List (Yaml × Yaml) → Nat
  | [] => 0
  | (k, v) :: es => max (max (depth k) (depth v)) (entriesDepth es)

end

end Yaml

end ThreatModel
