import ThreatModel.Json.Written
import ThreatModel.Yaml

namespace ThreatModel.Yaml

open Text

def isNull (text : String) : Bool :=
  text = "null" || text = "Null" || text = "NULL" || text = "~"

def bool? (text : String) : Option Bool :=
  if text = "true" || text = "True" || text = "TRUE" then some true
  else if text = "false" || text = "False" || text = "FALSE" then some false
  else none

def isPadded (cs : List Char) : Bool := cs.head? = some '0' && 1 < cs.length && cs.all isDigit

def digitsIn? (radix : Nat) (ds : List Char) : Option Nat :=
  if ds.isEmpty then none
  else ds.foldlM (fun n d => do
    let v ← Json.hexValue? d
    if v < radix then some (radix * n + v) else none) 0

def natural? : List Char → Option Nat
  | '0' :: 'x' :: ds => digitsIn? 16 ds
  | '0' :: 'o' :: ds => digitsIn? 8 ds
  | '0' :: 'b' :: ds => digitsIn? 2 ds
  | ds => if isPadded ds then none else digitsIn? 10 ds

def integer? : List Char → Option Int
  | '-' :: cs => (natural? cs).map fun n => -(n : Int)
  | '+' :: cs => (natural? cs).map fun n => (n : Int)
  | cs => (natural? cs).map fun n => (n : Int)

def exponent? : List Char → Option Int
  | '-' :: ds => (digitsIn? 10 ds).map fun n => -(n : Int)
  | '+' :: ds => (digitsIn? 10 ds).map fun n => (n : Int)
  | ds => (digitsIn? 10 ds).map fun n => (n : Int)

def decimal? (negative : Bool) (cs : List Char) : Option Binary64 := do
  let whole := cs.takeWhile isDigit
  let rest := cs.dropWhile isDigit
  let (fraction, rest) := match rest with
    | '.' :: rest => (rest.takeWhile isDigit, rest.dropWhile isDigit)
    | rest => ([], rest)
  if whole.isEmpty && fraction.isEmpty then none
  let e ← match rest with
    | [] => some 0
    | c :: rest => if c = 'e' || c = 'E' then exponent? rest else none
  Binary64.ofDecimal? negative (decimalValue (whole ++ fraction)) (e - fraction.length)

def isInfinite (cs : List Char) : Bool :=
  [".inf", ".Inf", ".INF"].contains (String.ofList cs)

def isNotANumber (cs : List Char) : Bool :=
  [".nan", ".NaN", ".NAN"].contains (String.ofList cs)

def float? (cs : List Char) : Option Float :=
  if isNotANumber cs then some .notANumber
  else
    let (negative, body) := match cs with
      | '-' :: body => (true, body)
      | '+' :: body => (false, body)
      | body => (false, body)
    if isInfinite body then some (.infinite negative) else (decimal? negative body).map .finite

/-- An integer as a value. One that fits into 128 bits but not into 64 is refused. -/
def ofInteger? (i : Int) : Option Yaml :=
  if isSigned64 i || isUnsigned64 i then some (.int i) else none

def isWide (i : Int) : Bool := i < -(bitValues 127 : Int) || (bitValues 128 : Int) ≤ i

def ofPlain? (cs : List Char) : Option Yaml :=
  let text := String.ofList cs
  let number? (cs : List Char) : Yaml :=
    let body := if cs.head? = some '-' || cs.head? = some '+' then cs.drop 1 else cs
    if isPadded body then .string text else (float? cs).elim (.string text) .float
  if cs.isEmpty || isNull text then some .null
  else match bool? text with
    | some b => some (.bool b)
    | none =>
      match integer? cs with
      | some i => if isWide i then some (number? cs) else ofInteger? i
      | none => some (number? cs)

def standardTag (name : String) : List Char := ("tag:yaml.org,2002:" ++ name).toList

def ofTagged? (tag cs : List Char) : Option Yaml :=
  let text := String.ofList cs
  if tag = standardTag "bool" then (bool? text).map .bool
  else if tag = standardTag "int" then (integer? cs).bind ofInteger?
  else if tag = standardTag "float" then (float? cs).map .float
  else if tag = standardTag "null" then (if isNull text then some .null else none)
  else some (.string text)

end ThreatModel.Yaml
