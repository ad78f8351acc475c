import ThreatModel.Number.Binary64
import ThreatModel.Text.Decimal

namespace ThreatModel.Binary64

open Text

/-- The least `j` from `start` on, within `fuel` steps, with `den ≤ num * 10 ^ j`. -/
def leadingZeros (num den : Nat) : Nat → Nat → Nat
  | 0, j => j
  | fuel + 1, j => if den ≤ num * Nat.pow 10 j then j else leadingZeros num den fuel (j + 1)

def decimalExponent (num den : Nat) : Int :=
  if den ≤ num then ((decimal (num / den)).length : Int) - 1
  else -(leadingZeros num den 400 1 : Int)

def onGrid (num den : Nat) : Int → Nat
  | .ofNat e => num / (den * Nat.pow 10 e)
  | .negSucc e => num * Nat.pow 10 (e + 1) / den

def readsBack (x : Binary64) (digits : Nat) (e : Int) : Bool :=
  match ofDecimal? x.negative digits e with
  | some y => y = x
  | none => false

def belowIsNearer (num den below : Nat) : Int → Bool
  | .ofNat e => 2 * num ≤ (2 * below + 1) * (den * Nat.pow 10 e)
  | .negSucc e => 2 * (num * Nat.pow 10 (e + 1)) ≤ (2 * below + 1) * den

/-- The digits and the power of ten of the last one, on the first grid from `e` downwards that has a
point that reads back. -/
def shortestFrom (x : Binary64) (num den : Nat) : Nat → Int → Nat × Int
  | 0, e => (onGrid num den e, e)
  | fuel + 1, e =>
    let below := onGrid num den e
    match readsBack x below e, readsBack x (below + 1) e with
    | true, true => if belowIsNearer num den below e then (below, e) else (below + 1, e)
    | true, false => (below, e)
    | false, true => (below + 1, e)
    | false, false => shortestFrom x num den fuel (e - 1)

def shortest (x : Binary64) : Nat × Int :=
  let (num, den) := x.ratio
  if num = 0 then (0, 0) else shortestFrom x num den 18 (decimalExponent num den)

structure Style where
  /-- The least and the greatest power of ten of the first digit without an exponent. -/
  least : Int := -5
  greatest : Int := 15
  plus : Bool
deriving DecidableEq

def positional (ds : List Char) (first : Int) : List Char :=
  match first with
  | .negSucc n => '0' :: '.' :: List.replicate n '0' ++ ds
  | .ofNat n =>
    let whole := ds.take (n + 1) ++ List.replicate (n + 1 - ds.length) '0'
    let fraction := ds.drop (n + 1)
    whole ++ '.' :: (if fraction.isEmpty then ['0'] else fraction)

def scientific (plus : Bool) (ds : List Char) (first : Int) : List Char :=
  let fraction := ds.drop 1
  let point := if fraction.isEmpty then [] else '.' :: fraction
  let sign := if plus && 0 ≤ first then ['+'] else []
  ds.take 1 ++ point ++ 'e' :: sign ++ decimalInt first

def dropZeros (ds : List Char) : List Char := (ds.reverse.dropWhile (· = '0')).reverse

def text (style : Style) (x : Binary64) : List Char :=
  let sign := if x.negative then ['-'] else []
  let (n, e) := x.shortest
  if n = 0 then sign ++ ['0', '.', '0']
  else
    let ds := decimal n
    let first := e + ds.length - 1
    let ds := dropZeros ds
    sign ++ if style.least ≤ first && first ≤ style.greatest then positional ds first
      else scientific style.plus ds first

end ThreatModel.Binary64
