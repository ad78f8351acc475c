import ThreatModel.Text.Decimal

namespace ThreatModel

/-- Characters by ranges of their code points, or all others. -/
structure CharSet where
  ranges : List (Nat × Nat)
  negated : Bool := false
deriving DecidableEq, Inhabited

inductive Regex where
  | empty
  | one (s : CharSet)
  | seq (r s : Regex)
  | alt (r s : Regex)
  | star (r : Regex)
  | start
  | finish
deriving DecidableEq, Inhabited

namespace CharSet

def contains (s : CharSet) (c : Char) : Bool :=
  s.ranges.any (fun (lo, hi) => lo ≤ c.toNat && c.toNat ≤ hi) != s.negated

def single (c : Char) : CharSet := ⟨[(c.toNat, c.toNat)], false⟩

def complement (s : CharSet) : CharSet := { s with negated := !s.negated }

def digits : CharSet := ⟨[(0x30, 0x39)], false⟩

def wordChars : CharSet := ⟨[(0x41, 0x5a), (0x61, 0x7a), (0x30, 0x39), (0x5f, 0x5f)], false⟩

def spaces : List Char :=
  [' ', '\t', '\n', '\r', '\x0b', '\x0c', '\u00a0', '\ufeff', '\u2003', '\u2029']

def space : CharSet := ⟨spaces.map fun c => (c.toNat, c.toNat), false⟩

def dot : CharSet := (single '\n').complement

def ofEscape? : Char → Option CharSet
  | 'd' => some digits
  | 'D' => some digits.complement
  | 'w' => some wordChars
  | 'W' => some wordChars.complement
  | 's' => some space
  | 'S' => some space.complement
  | _ => none

def others (ranges : List (Nat × Nat)) : List (Nat × Nat) :=
  let holes := (ranges.mergeSort fun a b => a.1 ≤ b.1).foldl
    (fun (next, holes) (lo, hi) =>
      (max next (hi + 1), if next < lo then holes ++ [(next, lo - 1)] else holes))
    (0, ([] : List (Nat × Nat)))
  holes.2 ++ [(holes.1, 0x10ffff)]

def plainRanges (s : CharSet) : List (Nat × Nat) :=
  if s.negated then others s.ranges else s.ranges

end CharSet

namespace Regex

def char (c : Char) : Regex := one (.single c)

def plus (r : Regex) : Regex := seq r (star r)

/-- All texts that may be left after `step` has been repeated, in at most `fuel` rounds that each
read something. -/
def iterate (step : List Char → List (List Char)) : Nat → List Char → List (List Char)
  | 0, cs => [cs]
  | fuel + 1, cs =>
    ((step cs).filter fun left => left.length < cs.length).flatMap (iterate step fuel) ++ [cs]

/-- All texts that may be left of `cs` after the expression has read its start; the whole text has
`size` characters. -/
def ends (size : Nat) : Regex → List Char → List (List Char)
  | empty, cs => [cs]
  | one _, [] => []
  | one s, c :: cs => if s.contains c then [cs] else []
  | seq r s, cs => (ends size r cs).flatMap (ends size s)
  | alt r s, cs => ends size r cs ++ ends size s cs
  | star r, cs => iterate (ends size r) cs.length cs
  | start, cs => if cs.length = size then [cs] else []
  | finish, cs => if cs.isEmpty then [cs] else []

def foundIn (size : Nat) (r : Regex) : List Char → Bool
  | [] => !(ends size r []).isEmpty
  | c :: cs => !(ends size r (c :: cs)).isEmpty || foundIn size r cs

def accepts (r : Regex) (text : String) : Bool :=
  foundIn text.toList.length r text.toList

def escapedChar? : Char → Option Char
  | 'n' => some '\n'
  | 'r' => some '\r'
  | 't' => some '\t'
  | 'f' => some '\x0c'
  | 'v' => some '\x0b'
  | c => if c.isAlphanum then none else some c

def member? : List Char → Option ((Char ⊕ CharSet) × List Char)
  | [] => none
  | '\\' :: c :: rest =>
    match CharSet.ofEscape? c with
    | some s => some (.inr s, rest)
    | none => (escapedChar? c).map fun c => (.inl c, rest)
  | c :: rest => some (.inl c, rest)

def memberRanges? (cs : List Char) : Option (List (Nat × Nat) × List Char) := do
  match ← member? cs with
  | (.inr s, rest) => some (s.plainRanges, rest)
  | (.inl lo, '-' :: ']' :: rest) => some ([(lo.toNat, lo.toNat)], '-' :: ']' :: rest)
  | (.inl lo, '-' :: rest) =>
    match ← member? rest with
    | (.inl hi, rest) => if hi < lo then none else some ([(lo.toNat, hi.toNat)], rest)
    | (.inr _, _) => none
  | (.inl lo, rest) => some ([(lo.toNat, lo.toNat)], rest)

def members? : Nat → List Char → Option (List (Nat × Nat) × List Char)
  | 0, _ => none
  | fuel + 1, cs => do
    let (ranges, rest) ← memberRanges? cs
    match rest with
    | ']' :: rest => some (ranges, rest)
    | rest => (members? fuel rest).map fun (more, rest) => (ranges ++ more, rest)

def repeated (r : Regex) (least : Nat) (most : Option Nat) : Regex :=
  let tail := match most with
    | none => star r
    | some most => (List.range (most - least)).foldl (fun t _ => alt (seq r t) empty) empty
  (List.range least).foldl (fun t _ => seq r t) tail

def bounds? (cs : List Char) : Option (Nat × Option Nat × List Char) := do
  let ds := cs.takeWhile Text.isDigit
  if ds.isEmpty then none
  let least := Text.decimalValue ds
  match cs.dropWhile Text.isDigit with
  | '\x7d' :: rest => some (least, some least, rest)
  | ',' :: '\x7d' :: rest => some (least, none, rest)
  | ',' :: rest =>
    let ds := rest.takeWhile Text.isDigit
    let most := Text.decimalValue ds
    match rest.dropWhile Text.isDigit with
    | '\x7d' :: left => if ds.isEmpty || most < least then none else some (least, some most, left)
    | _ => none
  | _ => none

def repetition? : List Char → Option (Nat × Option Nat × List Char)
  | '*' :: rest => some (0, none, rest)
  | '+' :: rest => some (1, none, rest)
  | '?' :: rest => some (0, some 1, rest)
  | '\x7b' :: rest => bounds? rest
  | _ => none

/-- A repetition may be marked as reluctant, which does not change what is found. -/
def dropReluctant : List Char → List Char
  | '?' :: rest => rest
  | cs => cs

mutual

def alternatives? : Nat → List Char → Option (Regex × List Char)
  | 0, _ => none
  | fuel + 1, cs => do
    let (r, rest) ← sequence? fuel cs
    match rest with
    | '|' :: rest => (alternatives? fuel rest).map fun (s, rest) => (alt r s, rest)
    | rest => some (r, rest)

def sequence? : Nat → List Char → Option (Regex × List Char)
  | 0, _ => none
  | fuel + 1, cs =>
    match cs with
    | [] => some (empty, [])
    | ')' :: _ => some (empty, cs)
    | '|' :: _ => some (empty, cs)
    | cs => do
      let (r, rest) ← atom? fuel cs
      let (r, rest) := match repetition? rest with
        | some (least, most, rest) => (repeated r least most, dropReluctant rest)
        | none => (r, rest)
      let (s, rest) ← sequence? fuel rest
      pure (seq r s, rest)

def atom? : Nat → List Char → Option (Regex × List Char)
  | 0, _ => none
  | fuel + 1, cs =>
    match cs with
    | [] => none
    | '^' :: rest => some (start, rest)
    | '$' :: rest => some (finish, rest)
    | '.' :: rest => some (one .dot, rest)
    | '*' :: _ => none
    | '+' :: _ => none
    | '?' :: _ => none
    | '(' :: '?' :: ':' :: rest => inGroup? fuel rest
    | '(' :: '?' :: _ => none
    | '(' :: rest => inGroup? fuel rest
    | '[' :: '^' :: rest =>
      (members? fuel rest).map fun (ranges, rest) => (one ⟨ranges, true⟩, rest)
    | '[' :: rest => (members? fuel rest).map fun (ranges, rest) => (one ⟨ranges, false⟩, rest)
    | '\\' :: c :: rest =>
      match CharSet.ofEscape? c with
      | some s => some (one s, rest)
      | none => (escapedChar? c).map fun c => (char c, rest)
    | '\\' :: [] => none
    | c :: rest => some (char c, rest)

def inGroup? : Nat → List Char → Option (Regex × List Char)
  | 0, _ => none
  | fuel + 1, cs => do
    let (r, rest) ← alternatives? fuel cs
    match rest with
    | ')' :: rest => some (r, rest)
    | _ => none

end

def ofText? (text : String) : Option Regex := do
  let cs := text.toList
  let (r, rest) ← alternatives? (4 * cs.length + 4) cs
  if rest.isEmpty then some r else none

def memberText : Char → Option (Bool × List Char)
  | 'd' => some (false, "0-9".toList)
  | 'D' => some (true, "0-9".toList)
  | 'w' => some (false, "A-Za-z0-9_".toList)
  | 'W' => some (true, "A-Za-z0-9_".toList)
  | 's' => some (false, CharSet.spaces)
  | 'S' => some (true, CharSet.spaces)
  | _ => none

def expandClasses (inBracket : Bool) : List Char → List Char
  | [] => []
  | '\\' :: c :: rest =>
    match memberText c, inBracket with
    | some (false, ms), true => ms ++ expandClasses inBracket rest
    | some (negated, ms), false =>
      '[' :: (if negated then ['^'] else []) ++ ms ++ ']' :: expandClasses inBracket rest
    | _, _ => '\\' :: c :: expandClasses inBracket rest
  | '[' :: rest => '[' :: expandClasses true rest
  | ']' :: rest => ']' :: expandClasses false rest
  | c :: rest => c :: expandClasses inBracket rest

end Regex

end ThreatModel
