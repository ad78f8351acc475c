import ThreatModel.Toml.Scalar

namespace ThreatModel.Toml

open Text Text.Reader

inductive Origin where
  /-- It is above a table with a header. -/
  | implied
  | header
  | dotted
deriving DecidableEq, Inhabited

inductive Slot where
  | value (v : Toml)
  | table (origin : Origin) (slots : List (String × Slot))
  | tables (all : List (List (String × Slot)))
deriving Inhabited

abbrev Slots := List (String × Slot)

namespace Slots

def put (k : String) (s : Slot) : Slots → Slots
  | [] => [(k, s)]
  | (l, t) :: rest => if l = k then (k, s) :: rest else (l, t) :: put k s rest

/-- Applies `f` to the table that a path of keys leads to; the last of several tables counts. -/
def update? (f : Slots → Option Slots) : List String → Slots → Option Slots
  | [], slots => f slots
  | k :: path, slots =>
    match slots.lookup k with
    | none => do pure (slots.put k (.table .implied (← update? f path [])))
    | some (.table origin inner) => do
      pure (slots.put k (.table origin (← update? f path inner)))
    | some (.tables all) => do
      let last ← all.getLast?
      pure (slots.put k (.tables (all.dropLast ++ [← update? f path last])))
    | some (.value _) => none

def open? (k : String) (slots : Slots) : Option Slots :=
  match slots.lookup k with
  | none => some (slots.put k (.table .header []))
  | some (.table .implied inner) => some (slots.put k (.table .header inner))
  | _ => none

def append? (k : String) (slots : Slots) : Option Slots :=
  match slots.lookup k with
  | none => some (slots.put k (.tables [[]]))
  | some (.tables all) => some (slots.put k (.tables (all ++ [[]])))
  | _ => none

def assign? (v : Toml) : List String → Slots → Option Slots
  | [], _ => none
  | [k], slots =>
    match slots.lookup k with
    | none => some (slots.put k (.value v))
    | some _ => none
  | k :: path, slots =>
    match slots.lookup k with
    | none => do pure (slots.put k (.table .dotted (← assign? v path [])))
    | some (.table .header _) => none
    | some (.table origin inner) => do
      pure (slots.put k (.table origin (← assign? v path inner)))
    | some _ => none

end Slots

mutual

def Slot.toToml : Slot → Toml
  | .value v => v
  | .table _ slots => .table (slotsToEntries slots)
  | .tables all => .array (tablesToItems all)

def slotsToEntries : List (String × Slot) → List (String × Toml)
  | [] => []
  | (k, s) :: rest => (k, s.toToml) :: slotsToEntries rest

def tablesToItems : List (List (String × Slot)) → List Toml
  | [] => []
  | slots :: rest => .table (slotsToEntries slots) :: tablesToItems rest

end

def keyPart : Reader String := do
  match ← next? with
  | some '"' =>
    let _ ← next
    return .ofList (← lineString true ((← get).length + 1))
  | some '\'' =>
    let _ ← next
    return .ofList (← lineString false ((← get).length + 1))
  | _ =>
    let cs ← takeWhile isKeyChar
    guardThat (!cs.isEmpty)
    pure (.ofList cs)

def key : Nat → Reader (List String)
  | 0 => failure
  | fuel + 1 => do
    let k ← keyPart
    skipSpace
    if ← accept "." then
      skipSpace
      return k :: (← key fuel)
    else pure [k]

def comment : Reader Unit := do
  if ← accept "#" then
    let cs ← takeWhile fun c => c != '\n' && c != '\r'
    guardThat (cs.all isPrintable)

def skipLines : Nat → Reader Unit
  | 0 => pure ()
  | fuel + 1 => do
    skipSpace
    comment
    if ← newline? then skipLines fuel

def depthLimit : Nat := 80

mutual

def value (depth : Nat) : Nat → Reader Toml
  | 0 => failure
  | fuel + 1 => do
    match ← next? with
    | some '"' => return .string (.ofList (← quotedText))
    | some '\'' => return .string (.ofList (← quotedText))
    | some '[' =>
      guardThat (0 < depth)
      let _ ← next
      return .array (← items (depth - 1) fuel)
    | some '\x7b' =>
      guardThat (0 < depth)
      let _ ← next
      return .table (slotsToEntries (← fields (depth - 1) [] fuel))
    | _ => bare

def items (depth : Nat) : Nat → Reader (List Toml)
  | 0 => failure
  | fuel + 1 => do
    skipLines ((← get).length + 1)
    if ← accept "]" then pure []
    else
      let v ← value depth fuel
      skipLines ((← get).length + 1)
      if ← accept "," then return v :: (← items depth fuel)
      else
        expect "]"
        pure [v]

/-- The entries of a table in braces, after its brace or a comma, and after those in `slots`. -/
def fields (depth : Nat) (slots : Slots) : Nat → Reader Slots
  | 0 => failure
  | fuel + 1 => do
    skipLines ((← get).length + 1)
    if ← accept "\x7d" then pure slots
    else
      let k ← key fuel
      expect "="
      skipSpace
      let v ← value depth fuel
      let slots ← slots.assign? v k
      skipLines ((← get).length + 1)
      if ← accept "," then fields depth slots fuel
      else
        expect "\x7d"
        pure slots

end

def header (fuel : Nat) : Reader (Bool × List String) := do
  expect "["
  let several ← accept "["
  skipSpace
  let k ← key fuel
  expect (if several then "]]" else "]")
  pure (several, k)

def lineEnd : Reader Unit := do
  skipSpace
  comment
  guardThat ((← newline?) || (← atEnd))

def lines (current : List String) (slots : Slots) : Nat → Reader Slots
  | 0 => failure
  | fuel + 1 => do
    skipLines ((← get).length + 1)
    if ← atEnd then pure slots
    else if ← sees "[" then
      let (several, path) ← header fuel
      lineEnd
      let some last := path.getLast? | failure
      let slots ← slots.update? (if several then Slots.append? last else Slots.open? last) path.dropLast
      lines path slots fuel
    else
      let k ← key fuel
      expect "="
      skipSpace
      let v ← value depthLimit fuel
      lineEnd
      let slots ← slots.update? (Slots.assign? v k) current
      lines current slots fuel

def ofText? (text : String) : Option Toml :=
  let cs := text.toList
  let document : Reader Slots := do
    let _ ← accept "\ufeff"
    lines [] [] (cs.length + 2)
  (readAll? document cs).map fun slots => .table (slotsToEntries slots)

end ThreatModel.Toml
