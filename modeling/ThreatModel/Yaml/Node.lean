import ThreatModel.Yaml.Token.Lexer

namespace ThreatModel.Yaml

structure Node.Properties where
  anchor : Option (List Char) := none
  tag : Option (List Char) := none
deriving DecidableEq, Inhabited

inductive Node where
  | reference (anchor : List Char)
  | scalar (properties : Node.Properties) (plain : Bool) (text : List Char)
  | sequence (properties : Node.Properties) (items : List Node)
  | mapping (properties : Node.Properties) (entries : List (Node × Node))
deriving Inhabited

namespace Node

def missing : Node := .scalar {} true []

abbrev Handles := List (List Char × List Char)

abbrev Parse := StateT (List Token) Option

def next? : Parse (Option Token) := do return (← get).head?

def advance : Parse Unit := modify (·.drop 1)

def accept (t : Token) : Parse Bool := do
  if (← next?) = some t then
    advance
    pure true
  else pure false

def sees (ts : List Token) : Parse Bool := do return (← next?).any ts.contains

def resolveTag (handles : Handles) (handle suffix : List Char) : Parse (List Char) :=
  if handle.isEmpty then pure suffix
  else do
    let some expansion := handles.lookup handle | failure
    pure (expansion ++ suffix)

def properties (handles : Handles) : Parse Properties := do
  match ← get with
  | .anchor a :: .tag h s :: rest =>
    set rest
    pure ⟨some a, some (← resolveTag handles h s)⟩
  | .tag h s :: .anchor a :: rest =>
    set rest
    pure ⟨some a, some (← resolveTag handles h s)⟩
  | .anchor a :: rest =>
    set rest
    pure ⟨some a, none⟩
  | .tag h s :: rest =>
    set rest
    pure ⟨none, some (← resolveTag handles h s)⟩
  | _ => pure {}

def plainTag (p : Properties) : Properties := if p.tag = some ['!'] then { p with tag := none } else p

def absent (p : Properties) : Parse Node :=
  if p.anchor.isSome || p.tag.isSome then pure (.scalar p true []) else failure

mutual

/-- A node. Block collections may be in block style only; `unindented` says that the dashes of a
sequence may stand below the key that it belongs to. -/
def node (handles : Handles) (block unindented : Bool) : Nat → Parse Node
  | 0 => failure
  | fuel + 1 => do
    if let some (.reference a) ← next? then
      advance
      return .reference a
    let p ← properties handles
    match ← next? with
    | some (.scalar plain text) =>
      advance
      pure (.scalar (plainTag p) plain text)
    | some .flowSequenceStart =>
      advance
      return .sequence p (← flowItems handles true fuel)
    | some .flowMappingStart =>
      advance
      return .mapping p (← flowEntries handles true fuel)
    | some .blockEntry =>
      if unindented then return .sequence p (← unindentedItems handles fuel)
      else absent p
    | some .blockSequenceStart =>
      if block then
        advance
        return .sequence p (← blockItems handles fuel)
      else absent p
    | some .blockMappingStart =>
      if block then
        advance
        return .mapping p (← blockEntries handles fuel)
      else absent p
    | _ => absent p

def nodeUnless (handles : Handles) (stops : List Token) (block unindented : Bool) :
    Nat → Parse Node
  | 0 => failure
  | fuel + 1 => do
    if ← sees stops then pure missing else node handles block unindented fuel

def blockItems (handles : Handles) : Nat → Parse (List Node)
  | 0 => failure
  | fuel + 1 => do
    if ← accept .blockEntry then
      let v ← nodeUnless handles [.blockEntry, .blockEnd] true false fuel
      return v :: (← blockItems handles fuel)
    else if ← accept .blockEnd then pure []
    else failure

def unindentedItems (handles : Handles) : Nat → Parse (List Node)
  | 0 => failure
  | fuel + 1 => do
    if ← accept .blockEntry then
      let v ← nodeUnless handles [.blockEntry, .key, .value, .blockEnd] true false fuel
      return v :: (← unindentedItems handles fuel)
    else pure []

def blockEntries (handles : Handles) : Nat → Parse (List (Node × Node))
  | 0 => failure
  | fuel + 1 => do
    if ← accept .key then
      let stops := [Token.key, .value, .blockEnd]
      let k ← nodeUnless handles stops true true fuel
      let v ← if ← accept .value then nodeUnless handles stops true true fuel else pure missing
      return (k, v) :: (← blockEntries handles fuel)
    else if ← accept .blockEnd then pure []
    else failure

def flowItems (handles : Handles) (first : Bool) : Nat → Parse (List Node)
  | 0 => failure
  | fuel + 1 => do
    if ← accept .flowSequenceEnd then return []
    if !first then
      if !(← accept .flowEntry) then failure
    if ← accept .flowSequenceEnd then return []
    let v ← if ← accept .key then do pure (Node.mapping {} [← flowPair handles fuel])
      else node handles false false fuel
    return v :: (← flowItems handles false fuel)

/-- An entry inside brackets, after its mark. Where no key follows, the token in its place is
passed over. -/
def flowPair (handles : Handles) : Nat → Parse (Node × Node)
  | 0 => failure
  | fuel + 1 => do
    let k ← if ← sees [.value, .flowEntry, .flowSequenceEnd] then do
        advance
        pure missing
      else node handles false false fuel
    let v ← if ← accept .value then
        nodeUnless handles [.flowEntry, .flowSequenceEnd] false false fuel
      else pure missing
    pure (k, v)

def flowEntries (handles : Handles) (first : Bool) : Nat → Parse (List (Node × Node))
  | 0 => failure
  | fuel + 1 => do
    if ← accept .flowMappingEnd then return []
    if !first then
      if !(← accept .flowEntry) then failure
    if ← accept .flowMappingEnd then return []
    let stops := [Token.flowEntry, .flowMappingEnd]
    let entry ← if ← accept .key then do
        let k ← nodeUnless handles (.value :: stops) false false fuel
        let v ← if ← accept .value then nodeUnless handles stops false false fuel
          else pure missing
        pure (k, v)
      else do pure (← node handles false false fuel, missing)
    return entry :: (← flowEntries handles false fuel)

end

def usualHandles : Handles := [(['!'], ['!']), (['!', '!'], "tag:yaml.org,2002:".toList)]

/-- The directives before a document: at most one version, and handles that differ. -/
def directives : Nat → Bool → Handles → Parse Handles
  | 0, _, _ => failure
  | fuel + 1, versioned, handles => do
    match ← next? with
    | some (.version major minor) =>
      if versioned || major != 1 || (minor != 1 && minor != 2) then failure
      advance
      directives fuel true handles
    | some (.tagDirective handle expansion) =>
      if (handles.lookup handle).isSome then failure
      advance
      directives fuel versioned ((handle, expansion) :: handles)
    | _ => pure handles

def isDirective : Token → Bool
  | .version .. => true
  | .tagDirective .. => true
  | _ => false

def document (fuel : Nat) : Parse Node := do
  match ← next? with
  | none => pure missing
  | some t =>
    if isDirective t || t = .documentStart then
      let handles ← directives fuel false []
      if !(← accept .documentStart) then failure
      match ← next? with
      | none => pure missing
      | some t =>
        if isDirective t || t = .documentStart || t = .documentEnd then pure missing
        else node (handles ++ usualHandles) true false fuel
    else node usualHandles true false fuel

def documentEnds : Nat → Parse Unit
  | 0 => pure ()
  | fuel + 1 => do
    if ← accept .documentEnd then documentEnds fuel

def ofTokens? (ts : List Token) : Option Node :=
  let fuel := 4 * ts.length + 4
  match (do
    let n ← document fuel
    documentEnds fuel
    pure n : Parse Node).run ts with
  | some (n, []) => some n
  | _ => none

end Node

end ThreatModel.Yaml
