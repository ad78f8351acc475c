import ThreatModel.Number.Width
import ThreatModel.Text.Decimal

namespace ThreatModel.Json

/-- The parts of a number; digits are given as characters. -/
structure Numeral where
  negative : Bool
  whole : List Char
  fraction : Option (List Char) := none
  exponent : Option (Bool × List Char) := none
deriving DecidableEq, Inhabited

/-- Strings are spelled with their escapes, without the quotes. -/
inductive Written where
  | null
  | bool (b : Bool)
  | number (n : Numeral)
  | string (spelling : List Char)
  | array (items : List Written)
  | object (fields : List (List Char × Written))
deriving Inhabited

def isSpace (c : Char) : Bool := c = ' ' || c = '\n' || c = '\t' || c = '\r'

def skipSpace (cs : List Char) : List Char := cs.dropWhile isSpace

def hexValue? (c : Char) : Option Nat :=
  if '0' ≤ c ∧ c ≤ '9' then some (c.toNat - 48)
  else if 'a' ≤ c ∧ c ≤ 'f' then some (c.toNat - 87)
  else if 'A' ≤ c ∧ c ≤ 'F' then some (c.toNat - 55)
  else none

def hex4? (a b c d : Char) : Option Nat := do
  pure (((← hexValue? a) * 16 + (← hexValue? b)) * 256 + (← hexValue? c) * 16 + (← hexValue? d))

def shortEscape? : Char → Option Char
  | '"' => some '"'
  | '\\' => some '\\'
  | '/' => some '/'
  | 'b' => some '\x08'
  | 'f' => some '\x0c'
  | 'n' => some '\n'
  | 'r' => some '\r'
  | 't' => some '\t'
  | _ => none

def stringSpelling? : List Char → Option (List Char × List Char)
  | [] => none
  | '"' :: rest => some ([], rest)
  | '\\' :: 'u' :: a :: b :: c :: d :: rest =>
    if (hex4? a b c d).isSome then
      (stringSpelling? rest).map fun (s, left) => ('\\' :: 'u' :: a :: b :: c :: d :: s, left)
    else none
  | '\\' :: e :: rest =>
    if (shortEscape? e).isSome then
      (stringSpelling? rest).map fun (s, left) => ('\\' :: e :: s, left)
    else none
  | c :: rest =>
    if c = '\\' || c.toNat < 0x20 then none
    else (stringSpelling? rest).map fun (s, left) => (c :: s, left)

def digits? (cs : List Char) : Option (List Char × List Char) :=
  let ds := cs.takeWhile Text.isDigit
  if ds.isEmpty then none else some (ds, cs.dropWhile Text.isDigit)

def wholeDigits? (cs : List Char) : Option (List Char × List Char) := do
  let (ds, rest) ← digits? cs
  if ds.head? = some '0' && 1 < ds.length then none else some (ds, rest)

def fraction? : List Char → Option (Option (List Char) × List Char)
  | '.' :: cs => (digits? cs).map fun (ds, rest) => (some ds, rest)
  | cs => some (none, cs)

def exponent? : List Char → Option (Option (Bool × List Char) × List Char)
  | [] => some (none, [])
  | c :: cs =>
    if c = 'e' || c = 'E' then
      match cs with
      | '-' :: cs => (digits? cs).map fun (ds, rest) => (some (true, ds), rest)
      | '+' :: cs => (digits? cs).map fun (ds, rest) => (some (false, ds), rest)
      | cs => (digits? cs).map fun (ds, rest) => (some (false, ds), rest)
    else some (none, c :: cs)

def numeral? (cs : List Char) : Option (Numeral × List Char) := do
  let negative := cs.head? = some '-'
  let (whole, cs) ← wholeDigits? (if negative then cs.drop 1 else cs)
  let (fraction, cs) ← fraction? cs
  let (exponent, cs) ← exponent? cs
  pure ({ negative, whole, fraction, exponent }, cs)

mutual

/-- A value at the start of a text, blanks before it included, and the text after it. The fuel bounds
the number of nested calls. -/
def value? : Nat → List Char → Option (Written × List Char)
  | 0, _ => none
  | fuel + 1, cs =>
    match skipSpace cs with
    | 'n' :: 'u' :: 'l' :: 'l' :: rest => some (.null, rest)
    | 't' :: 'r' :: 'u' :: 'e' :: rest => some (.bool true, rest)
    | 'f' :: 'a' :: 'l' :: 's' :: 'e' :: rest => some (.bool false, rest)
    | '"' :: rest => (stringSpelling? rest).map fun (s, left) => (.string s, left)
    | '[' :: rest =>
      match skipSpace rest with
      | ']' :: left => some (.array [], left)
      | _ => (items? fuel rest).map fun (vs, left) => (.array vs, left)
    | '\x7b' :: rest =>
      match skipSpace rest with
      | '\x7d' :: left => some (.object [], left)
      | _ => (fields? fuel rest).map fun (fs, left) => (.object fs, left)
    | rest => (numeral? rest).map fun (n, left) => (.number n, left)

def items? : Nat → List Char → Option (List Written × List Char)
  | 0, _ => none
  | fuel + 1, cs => do
    let (v, rest) ← value? fuel cs
    match skipSpace rest with
    | ',' :: rest => (items? fuel rest).map fun (vs, left) => (v :: vs, left)
    | ']' :: left => some ([v], left)
    | _ => none

def fields? : Nat → List Char → Option (List (List Char × Written) × List Char)
  | 0, _ => none
  | fuel + 1, cs =>
    match skipSpace cs with
    | '"' :: cs => do
      let (k, rest) ← stringSpelling? cs
      match skipSpace rest with
      | ':' :: rest => do
        let (v, rest) ← value? fuel rest
        match skipSpace rest with
        | ',' :: rest => (fields? fuel rest).map fun (fs, left) => ((k, v) :: fs, left)
        | '\x7d' :: left => some ([(k, v)], left)
        | _ => none
      | _ => none
    | _ => none

end

def Written.ofText? (cs : List Char) : Option Written := do
  let (v, rest) ← value? (2 * cs.length + 2) cs
  if (skipSpace rest).isEmpty then some v else none

/-- The characters that a spelling stands for. A surrogate stands for a character only in a pair. -/
def unescape? : List Char → Option (List Char)
  | [] => some []
  | '\\' :: 'u' :: a :: b :: c :: d :: rest => do
    let n ← hex4? a b c d
    if 0xd800 ≤ n ∧ n < 0xdc00 then
      match rest with
      | '\\' :: 'u' :: a :: b :: c :: d :: rest => do
        let m ← hex4? a b c d
        if 0xdc00 ≤ m ∧ m < 0xe000 then
          (unescape? rest).map (Char.ofNat (0x10000 + (n - 0xd800) * 0x400 + (m - 0xdc00)) :: ·)
        else none
      | _ => none
    else if 0xdc00 ≤ n ∧ n < 0xe000 then none
    else (unescape? rest).map (Char.ofNat n :: ·)
  | '\\' :: e :: rest => do
    let c ← shortEscape? e
    (unescape? rest).map (c :: ·)
  | c :: rest => (unescape? rest).map (c :: ·)

namespace Numeral

/-- A number is an integer when it is written without fraction and exponent, is not a negative zero,
and fits into 64 bits with or without a sign. -/
def integer? (n : Numeral) : Option Int :=
  if n.fraction.isSome || n.exponent.isSome then none
  else
    let magnitude := Text.decimalValue n.whole
    if n.negative then
      if magnitude = 0 || bitValues 63 < magnitude then none else some (-magnitude)
    else if magnitude < bitValues 64 then some magnitude else none

end Numeral

end ThreatModel.Json
