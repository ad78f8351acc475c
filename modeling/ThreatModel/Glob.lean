namespace ThreatModel

inductive GlobPart where
  | literal (c : Char)
  | any
  | many
  /-- Nothing, or anything up to a slash. -/
  | leadingFolders
  /-- A slash, or a slash and anything up to another one. -/
  | innerFolders
  | trailingFolders
  | oneOf (negated : Bool) (ranges : List (UInt8 × UInt8))
  /-- One of several branches; nothing when there are none. -/
  | choice (branches : List (List GlobPart))
deriving Inhabited

structure Glob where
  parts : List GlobPart
  /-- Whether `any` and `many` stop at slashes. -/
  stopsAtSlash : Bool

namespace Glob

abbrev Bytes := List UInt8

def slash : UInt8 := 47

def bytesOf (s : String) : Bytes := s.toUTF8.toList

def skipping (class? : UInt8 → Bool) (rest : Bytes → Bool) : Bytes → Bool
  | [] => rest []
  | b :: bs => rest (b :: bs) || (class? b && skipping class? rest bs)

def afterSlash (rest : Bytes → Bool) : Bytes → Bool
  | [] => false
  | b :: bs => (b == slash && rest bs) || afterSlash rest bs

def afterLiteral (rest : Bytes → Bool) (literal bs : Bytes) : Bool :=
  literal.isPrefixOf bs && rest (bs.drop literal.length)

def afterOne (class? : UInt8 → Bool) (rest : Bytes → Bool) : Bytes → Bool
  | [] => false
  | b :: bs => class? b && rest bs

mutual

/-- Whether a part accepts a start of the bytes after which `rest` accepts the others. -/
def acceptsPart (wild : UInt8 → Bool) : GlobPart → (Bytes → Bool) → Bytes → Bool
  | .literal c, rest => fun bs => afterLiteral rest (bytesOf (String.singleton c)) bs
  | .any, rest => afterOne wild rest
  | .many, rest => skipping wild rest
  | .leadingFolders, rest => fun bs => rest bs || afterSlash rest bs
  | .innerFolders, rest =>
    afterOne (· == slash) fun bs => rest bs || afterSlash rest bs
  | .trailingFolders, rest => afterOne (· == slash) (skipping (fun _ => true) rest)
  | .oneOf negated ranges, rest =>
    afterOne (fun b => (ranges.any fun (low, high) => low ≤ b && b ≤ high) != negated) rest
  | .choice [], rest => rest
  | .choice (branch :: branches), rest => fun bs =>
    acceptsAll wild branch rest bs || acceptsSome wild branches rest bs

def acceptsAll (wild : UInt8 → Bool) : List GlobPart → (Bytes → Bool) → Bytes → Bool
  | [], rest => rest
  | part :: parts, rest => acceptsPart wild part (acceptsAll wild parts rest)

def acceptsSome (wild : UInt8 → Bool) : List (List GlobPart) → (Bytes → Bool) → Bytes → Bool
  | [], _ => fun _ => false
  | branch :: branches, rest => fun bs =>
    acceptsAll wild branch rest bs || acceptsSome wild branches rest bs

end

def wild (g : Glob) (b : UInt8) : Bool := !(g.stopsAtSlash && b == slash)

def accepts (g : Glob) (bs : Bytes) : Bool := acceptsAll g.wild g.parts List.isEmpty bs

/-- Whether a glob matches a path. The glob `**` matches every path. -/
def matchesPath (g : Glob) (path : String) : Bool :=
  match g.parts with
  | [.leadingFolders] => true
  | _ => g.accepts (bytesOf path)

end Glob

end ThreatModel
