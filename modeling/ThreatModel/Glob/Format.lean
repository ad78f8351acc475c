import ThreatModel.Glob

namespace ThreatModel.Glob

structure Options where
  stopsAtSlash : Bool := false
  /-- Whether a bracket that is not closed stands for itself. -/
  allowsOpenClass : Bool := false

/-- The inside of a choice that is not closed yet: what stands before it, and the branches that are
complete, last one first. -/
structure OpenChoice where
  before : List GlobPart
  branches : List (List GlobPart)

structure Reading where
  current : List GlobPart := []
  choices : List OpenChoice := []
  last : Option Char := none
  /-- Whether brackets stand for themselves. -/
  plainBrackets : Bool := false

namespace Reading

def push (r : Reading) (part : GlobPart) : Reading := { r with current := part :: r.current }

def isVoid (parts : List GlobPart) : Bool :=
  parts.all fun part =>
    match part with
    | .choice [] => true
    | _ => false

def openChoice (r : Reading) : Reading :=
  { r with current := [], choices := ⟨r.current, []⟩ :: r.choices }

def nextBranch? (r : Reading) : Option Reading :=
  match r.choices with
  | [] => none
  | c :: outer =>
    some { r with current := [], choices := { c with branches := r.current :: c.branches } :: outer }

/-- Closes a choice. Branches without any parts are left out. -/
def closeChoice? (r : Reading) : Option Reading :=
  match r.choices with
  | [] => none
  | c :: outer =>
    let branches := ((r.current :: c.branches).reverse.map (·.reverse)).filter (!isVoid ·)
    some { r with current := .choice branches :: c.before, choices := outer }

end Reading

def classBytes (low high : Char) : List (UInt8 × UInt8) :=
  let single (b : UInt8) : UInt8 × UInt8 := (b, b)
  let lows := bytesOf (String.singleton low)
  let highs := bytesOf (String.singleton high)
  if low = high then lows.map single
  else
    match lows.reverse, highs with
    | last :: before, first :: after =>
      before.reverse.map single ++ [(last, first)] ++ after.map single
    | _, _ => []

/-- Reads a class after its bracket up to the one that closes it. `dashed` tells that a dash stands
after the last character. The result is missing for a class that is not closed, and empty inside
for a range from a higher to a lower character. -/
def classRest? (ranges : List (Char × Char)) (first dashed : Bool) :
    List Char → Option (Option (List (Char × Char) × List Char))
  | [] => none
  | c :: cs =>
    if c = ']' && !first then
      some (some ((if dashed then ('-', '-') :: ranges else ranges).reverse, cs))
    else if c = '-' && !first && !dashed then classRest? ranges false true cs
    else if dashed then
      match ranges with
      | [] => some none
      | (low, _) :: before =>
        if c < low then some none else classRest? ((low, c) :: before) false false cs
    else classRest? ((c, c) :: ranges) false false cs

/-- Two stars, after the last character `before`. They stand for folders at the start of a branch
and after a slash, if a slash or the end follows. -/
def doubleStar (r : Reading) (before : Option Char) (cs : List Char) : Reading × List Char :=
  let plain := ({ r with last := some '*' }.push .many |>.push .many, cs)
  if r.current.isEmpty then
    match cs with
    | [] => ({ r with last := some '*' }.push .leadingFolders, [])
    | '/' :: rest => ({ r with last := some '/' }.push .leadingFolders, rest)
    | _ => plain
  else if before != some '/' &&
      (r.choices.isEmpty || (before != some ',' && before != some '\x7b')) then plain
  else
    let folders (part : GlobPart) : List GlobPart :=
      match r.current with
      | .leadingFolders :: parts => .leadingFolders :: parts
      | .trailingFolders :: parts => .trailingFolders :: parts
      | _ :: parts => part :: parts
      | [] => [part]
    let atEnd := ({ r with current := folders .trailingFolders, last := some '*' }, cs)
    match cs with
    | [] => atEnd
    | '/' :: rest => ({ r with current := folders .innerFolders, last := some '/' }, rest)
    | c :: _ => if !r.choices.isEmpty && (c = ',' || c = '\x7d') then atEnd else plain

/-- Reads the characters of a glob. Each round takes at least one of them, so their number is fuel
enough. -/
def read? (options : Options) : Nat → Reading → List Char → Option Reading
  | _, r, [] => some r
  | 0, _, _ => none
  | fuel + 1, r, c :: cs =>
    let before := r.last
    let r := { r with last := some c }
    let next (r : Reading) := read? options fuel r cs
    match c with
    | '?' => next (r.push .any)
    | '*' =>
      match cs with
      | '*' :: rest =>
        let (r, rest) := doubleStar r before rest
        read? options fuel r rest
      | _ => next (r.push .many)
    | '[' =>
      if r.plainBrackets then next (r.push (.literal '['))
      else
        let (negated, inside) := match cs with
          | '!' :: rest => (true, rest)
          | '^' :: rest => (true, rest)
          | rest => (false, rest)
        match classRest? [] true false inside with
        | some (some (ranges, rest)) =>
          let bytes := ranges.flatMap fun (low, high) => classBytes low high
          read? options fuel ({ r with last := some ']' }.push (.oneOf negated bytes)) rest
        | some none => none
        | none =>
          if options.allowsOpenClass then
            next ({ r with plainBrackets := true }.push (.literal '['))
          else none
    | '\x7b' => next r.openChoice
    | '\x7d' => r.closeChoice?.bind next
    | ',' => next (r.nextBranch?.getD (r.push (.literal ',')))
    | '\\' =>
      match cs with
      | [] => none
      | d :: rest => read? options fuel ({ r with last := some d }.push (.literal d)) rest
    | c => next (r.push (.literal c))

def ofText? (options : Options) (text : String) : Option Glob := do
  let cs := text.toList
  let r ← read? options (cs.length + 1) {} cs
  if r.choices.isEmpty then some ⟨r.current.reverse, options.stopsAtSlash⟩ else none

end ThreatModel.Glob
