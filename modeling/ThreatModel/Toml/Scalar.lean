import ThreatModel.Json.Written
import ThreatModel.Number.Binary64
import ThreatModel.Text.Reader
import ThreatModel.Toml

namespace ThreatModel.Toml

open Text Text.Reader

def isSpace (c : Char) : Bool := c = ' ' || c = '\t'

def skipSpace : Reader Unit := skipWhile isSpace

def isPrintable (c : Char) : Bool := c = '\t' || (0x20 ≤ c.toNat && c.toNat != 0x7f)

def newline? : Reader Bool := do
  if ← accept "\n" then pure true else accept "\r\n"

def isKeyChar (c : Char) : Bool := c.isAlphanum || c = '_' || c = '-'

def codePoint (count : Nat) : Reader Char := do
  let digits := (← get).take count
  guardThat (digits.length = count && digits.all fun d => (Json.hexValue? d).isSome)
  let code := digits.foldl (fun n d => 16 * n + (Json.hexValue? d).getD 0) 0
  guardThat code.isValidChar
  modify (·.drop count)
  pure (Char.ofNat code)

def escaped : Reader Char := do
  match ← next with
  | 'b' => pure '\x08'
  | 't' => pure '\t'
  | 'n' => pure '\n'
  | 'f' => pure '\x0c'
  | 'r' => pure '\r'
  | 'e' => pure '\x1b'
  | '"' => pure '"'
  | '\\' => pure '\\'
  | 'x' => codePoint 2
  | 'u' => codePoint 4
  | 'U' => codePoint 8
  | _ => failure

/-- The rest of a line that ends in a backslash, and all blanks and empty lines after it. -/
def skipBrokenLine : Reader Unit := do
  skipSpace
  guardThat (← newline?)
  skipWhile fun c => isSpace c || c = '\n' || c = '\r'

def lineString (basic : Bool) : Nat → Reader (List Char)
  | 0 => failure
  | fuel + 1 => do
    let c ← next
    if c = (if basic then '"' else '\'') then pure []
    else if basic && c = '\\' then
      let e ← escaped
      return e :: (← lineString basic fuel)
    else
      guardThat (isPrintable c)
      return c :: (← lineString basic fuel)

/-- A string in threefold quotes, after the opening quotes. Up to two quotes may stand before the
closing ones. -/
def blockString (basic : Bool) : Nat → Reader (List Char)
  | 0 => failure
  | fuel + 1 => do
    let quote := if basic then '"' else '\''
    let marks := String.ofList [quote, quote, quote]
    if ← accept marks then
      let more := (← get).takeWhile (· = quote)
      guardThat (more.length ≤ 2)
      modify (·.drop more.length)
      pure more
    else if ← newline? then return '\n' :: (← blockString basic fuel)
    else
      let c ← next
      if basic && c = '\\' then
        if (← next?).any fun c => isSpace c || c = '\n' || c = '\r' then
          skipBrokenLine
          blockString basic fuel
        else
          let e ← escaped
          return e :: (← blockString basic fuel)
      else
        guardThat (isPrintable c)
        return c :: (← blockString basic fuel)

def quotedText : Reader (List Char) := do
  let fuel := (← get).length + 1
  if ← accept "\"\"\"" then
    let _ ← newline?
    blockString true fuel
  else if ← accept "'''" then
    let _ ← newline?
    blockString false fuel
  else if ← accept "\"" then lineString true fuel
  else
    expect "'"
    lineString false fuel

def plainDigits? (p : Char → Bool) (cs : List Char) : Option (List Char) :=
  let groups := splitWhen (· = '_') cs
  if groups.all fun g => !g.isEmpty && g.all p then some groups.flatten else none

def radixNumber? (radix : Nat) (cs : List Char) : Option Int := do
  let isRadixDigit (c : Char) : Bool := (Json.hexValue? c).any (· < radix)
  let ds ← plainDigits? isRadixDigit cs
  pure (ds.foldl (fun n d => radix * n + (Json.hexValue? d).getD 0) 0 : Nat)

def wholeNumber? (cs : List Char) : Option Nat := do
  let ds ← plainDigits? isDigit cs
  if ds.head? = some '0' && 1 < ds.length then none else some (decimalValue ds)

def splitSign : List Char → Bool × List Char
  | '-' :: cs => (true, cs)
  | '+' :: cs => (false, cs)
  | cs => (false, cs)

/-- Integers that fit into 128 bits, with or without a sign. -/
def integer? (cs : List Char) : Option Int := do
  let i ← match cs with
    | '0' :: 'x' :: ds => radixNumber? 16 ds
    | '0' :: 'o' :: ds => radixNumber? 8 ds
    | '0' :: 'b' :: ds => radixNumber? 2 ds
    | cs => do
      let (negative, ds) := splitSign cs
      let n ← wholeNumber? ds
      pure (if negative then -n else n)
  if -(bitValues 127 : Int) ≤ i && i < (bitValues 128 : Int) then some i else none

def isFloat (cs : List Char) : Bool :=
  let (_, cs) := splitSign cs
  if cs = ['i', 'n', 'f'] || cs = ['n', 'a', 'n'] then true
  else
    let mantissa := cs.takeWhile fun c => c != 'e' && c != 'E'
    let exponent := cs.drop mantissa.length
    let whole := mantissa.takeWhile (· != '.')
    let fraction := mantissa.drop whole.length
    (wholeNumber? whole).isSome && (!fraction.isEmpty || !exponent.isEmpty) &&
      (fraction.isEmpty || (plainDigits? isDigit (fraction.drop 1)).isSome) &&
      (exponent.isEmpty || (plainDigits? isDigit (splitSign (exponent.drop 1)).2).isSome)

def isInReach (cs : List Char) : Bool :=
  let cs := (splitSign cs).2.filter (· != '_')
  let mantissa := cs.takeWhile fun c => c != 'e' && c != 'E'
  let fraction := (mantissa.dropWhile (· != '.')).drop 1
  let digits := decimalValue (mantissa.takeWhile (· != '.') ++ fraction)
  let (negative, ds) := splitSign (cs.drop (mantissa.length + 1))
  let exponent : Int := if negative then -(decimalValue ds : Int) else (decimalValue ds : Int)
  !(mantissa.all fun c => isDigit c || c = '.') ||
    (Binary64.ofDecimal? false digits (exponent - (fraction.length : Int))).isSome

def number (count least most : Nat) : Reader Nat := do
  let ds := (← get).take count
  guardThat (ds.length = count && ds.all isDigit)
  let n := decimalValue ds
  guardThat (least ≤ n && n ≤ most)
  modify (·.drop count)
  pure n

def isLeap (year : Nat) : Bool := (year % 4 = 0 && year % 100 != 0) || year % 400 = 0

def monthLength (year month : Nat) : Nat :=
  if month = 2 then (if isLeap year then 29 else 28)
  else if [4, 6, 9, 11].contains month then 30 else 31

def date : Reader Unit := do
  let year ← number 4 0 9999
  expect "-"
  let month ← number 2 1 12
  expect "-"
  let _ ← number 2 1 (monthLength year month)

def clock : Reader Unit := do
  let _ ← number 2 0 23
  expect ":"
  let _ ← number 2 0 59
  if ← accept ":" then
    let _ ← number 2 0 60
    if ← accept "." then
      guardThat (!(← takeWhile isDigit).isEmpty)

def zone : Reader Unit := do
  if (← accept "Z") || (← accept "z") then pure ()
  else if (← accept "+") || (← accept "-") then
    let _ ← number 2 0 23
    expect ":"
    let _ ← number 2 0 59

def moment : Reader Unit := do
  if ((← get).drop 2).head? = some ':' then clock
  else
    date
    if !(← atEnd) then
      guardThat ((← accept "T") || (← accept "t") || (← accept " "))
      clock
      zone

def isTime (cs : List Char) : Bool := (readAll? moment cs).isSome

def isBareChar (c : Char) : Bool := c.isAlphanum || ['_', '-', '+', '.', ':'].contains c

/-- A value without quotes. A space in it may stand between a date and a time only. -/
def bare : Reader Toml := do
  let cs ← takeWhile isBareChar
  let cs ← match ← get with
    | ' ' :: d :: _ =>
      if isDigit d && isTime cs && !cs.contains ':' then
        modify (·.drop 1)
        pure (cs ++ ' ' :: (← takeWhile isBareChar))
      else pure cs
    | _ => pure cs
  match String.ofList cs with
  | "true" => pure (.bool true)
  | "false" => pure (.bool false)
  | _ =>
    if isTime cs then pure (.time cs)
    else if isFloat cs then
      guardThat (isInReach cs)
      pure (.float cs)
    else
      let i ← integer? cs
      pure (.int i)

end ThreatModel.Toml
