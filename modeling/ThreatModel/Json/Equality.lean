import ThreatModel.Json
import ThreatModel.Number.Shortest

namespace ThreatModel.Json

namespace Number

def ratio : Number → Int × Nat
  | .int i => (i, 1)
  | .float x => (if x.negative then -x.ratio.1 else x.ratio.1, x.ratio.2)

def less (a b : Number) : Bool := a.ratio.1 * b.ratio.2 < b.ratio.1 * a.ratio.2

def same (a b : Number) : Bool := a.ratio.1 * b.ratio.2 = b.ratio.1 * a.ratio.2

def decimalRatio : Number → Int × Nat
  | .int i => (i, 1)
  | .float x =>
    match x.shortest with
    | (digits, .ofNat e) => (digits * Nat.pow 10 e, 1)
    | (digits, .negSucc e) => (digits, Nat.pow 10 (e + 1))

/-- Whether the number divided by `unit` is an integer, both taken as decimals. -/
def isMultipleOf (a unit : Number) : Bool :=
  let (n, d) := a.decimalRatio
  let (m, e) := unit.decimalRatio
  m != 0 && (n * e) % (m * d) = 0

end Number

mutual

def same : Json → Json → Bool
  | null, null => true
  | bool a, bool b => a = b
  | number a, number b => a.same b
  | string a, string b => a = b
  | array as, array bs => sameItems as bs
  | object as, object bs => as.length = bs.length && sameFields as bs
  | _, _ => false

def sameItems : List Json → List Json → Bool
  | [], [] => true
  | a :: as, b :: bs => same a b && sameItems as bs
  | _, _ => false

def sameFields : List (String × Json) → List (String × Json) → Bool
  | [], _ => true
  | (k, a) :: as, bs =>
    (match bs.lookup k with
      | some b => same a b
      | none => false) && sameFields as bs

end

def distinct : List Json → Bool
  | [] => true
  | v :: vs => !vs.any (same v) && distinct vs

end ThreatModel.Json
