import ThreatModel.Text.Blank

namespace ThreatModel.Text

abbrev Reader := StateT (List Char) Option

namespace Reader

variable {α : Type}

def next : Reader Char := do
  match ← get with
  | [] => failure
  | c :: rest =>
    set rest
    pure c

def next? : Reader (Option Char) := do return (← get).head?

def atEnd : Reader Bool := do return (← get).isEmpty

def sees (head : String) : Reader Bool := do return head.toList.isPrefixOf (← get)

def accept (head : String) : Reader Bool := do
  match dropHead? head.toList (← get) with
  | none => pure false
  | some rest =>
    set rest
    pure true

def expect (head : String) : Reader Unit := do
  if !(← accept head) then failure

def takeWhile (p : Char → Bool) : Reader (List Char) := do
  let cs ← get
  set (cs.dropWhile p)
  pure (cs.takeWhile p)

def skipWhile (p : Char → Bool) : Reader Unit := modify (·.dropWhile p)

def cutAt? (mark : List Char) : List Char → Option (List Char × List Char)
  | [] => if mark.isEmpty then some ([], []) else none
  | c :: cs =>
    match dropHead? mark (c :: cs) with
    | some rest => some ([], rest)
    | none => (cutAt? mark cs).map fun (before, rest) => (c :: before, rest)

def upTo (mark : String) : Reader (List Char) := do
  let (before, rest) ← cutAt? mark.toList (← get)
  set rest
  pure before

def guardThat (ok : Bool) : Reader Unit := if ok then pure () else failure

def readAll? (r : Reader α) (cs : List Char) : Option α :=
  match r.run cs with
  | some (a, []) => some a
  | _ => none

end Reader

end ThreatModel.Text
