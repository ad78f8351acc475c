import ThreatModel.Json
import ThreatModel.Number.Shortest

namespace ThreatModel.Json

open Text

def hexDigit (n : Nat) : Char := if n < 10 then Char.ofNat (48 + n) else Char.ofNat (87 + n)

def escapeChar (c : Char) : List Char :=
  if c = '"' then ['\\', '"']
  else if c = '\\' then ['\\', '\\']
  else if c = '\x08' then ['\\', 'b']
  else if c = '\x0c' then ['\\', 'f']
  else if c = '\n' then ['\\', 'n']
  else if c = '\r' then ['\\', 'r']
  else if c = '\t' then ['\\', 't']
  else if c.toNat < 0x20 then
    ['\\', 'u', '0', '0', hexDigit (c.toNat / 16), hexDigit (c.toNat % 16)]
  else [c]

def quoted (s : String) : List Char := '"' :: s.toList.flatMap escapeChar ++ ['"']

/-- Floats keep a point or an exponent, and an exponent its sign. -/
def floatStyle : Binary64.Style := { plus := true }

def Number.chars : Number → List Char
  | .int i => decimalInt i
  | .float x => x.text floatStyle

def leaf : Json → List Char
  | null => ['n', 'u', 'l', 'l']
  | bool true => ['t', 'r', 'u', 'e']
  | bool false => ['f', 'a', 'l', 's', 'e']
  | number n => n.chars
  | string s => quoted s
  | array _ => ['[', ']']
  | object _ => ['\x7b', '\x7d']

mutual

def compactChars : Json → List Char
  | array (v :: vs) => '[' :: compactChars v ++ compactItems vs ++ [']']
  | object ((k, v) :: fs) =>
    '\x7b' :: quoted k ++ ':' :: compactChars v ++ compactFields fs ++ ['\x7d']
  | v => leaf v

def compactItems : List Json → List Char
  | [] => []
  | v :: vs => ',' :: compactChars v ++ compactItems vs

def compactFields : List (String × Json) → List Char
  | [] => []
  | (k, v) :: fs => ',' :: quoted k ++ ':' :: compactChars v ++ compactFields fs

end

def newline (depth : Nat) : List Char := '\n' :: List.replicate (2 * depth) ' '

mutual

def prettyChars (depth : Nat) : Json → List Char
  | array (v :: vs) =>
    '[' :: newline (depth + 1) ++ prettyChars (depth + 1) v ++ prettyItems (depth + 1) vs ++
      newline depth ++ [']']
  | object ((k, v) :: fs) =>
    '\x7b' :: newline (depth + 1) ++ quoted k ++ ':' :: ' ' :: prettyChars (depth + 1) v ++
      prettyFields (depth + 1) fs ++ newline depth ++ ['\x7d']
  | v => leaf v

def prettyItems (depth : Nat) : List Json → List Char
  | [] => []
  | v :: vs => ',' :: newline depth ++ prettyChars depth v ++ prettyItems depth vs

def prettyFields (depth : Nat) : List (String × Json) → List Char
  | [] => []
  | (k, v) :: fs =>
    ',' :: newline depth ++ quoted k ++ ':' :: ' ' :: prettyChars depth v ++ prettyFields depth fs

end

def compact (v : Json) : String := .ofList (compactChars v)

def pretty (v : Json) : String := .ofList (prettyChars 0 v)

mutual

def sorted : Json → Json
  | array items => array (sortedItems items)
  | object fields => object (SortedMap.ofList (sortedFields fields)).entries
  | v => v

def sortedItems : List Json → List Json
  | [] => []
  | v :: vs => sorted v :: sortedItems vs

def sortedFields : List (String × Json) → List (String × Json)
  | [] => []
  | (k, v) :: fs => (k, sorted v) :: sortedFields fs

end

end ThreatModel.Json
