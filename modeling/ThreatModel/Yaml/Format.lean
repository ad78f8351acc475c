import ThreatModel.Yaml.References
import ThreatModel.Yaml.Scalar

namespace ThreatModel.Yaml

/-- The anchors so far, each with its value once it is complete. -/
abbrev Anchors := List (List Char × Option Yaml)

/-- The value with the local tag that is given. The mark stands in the name only if it is all of it. -/
def withLocalTag (tag? : Option (List Char)) (v : Yaml) : Yaml :=
  match tag? with
  | some ['!'] => .tagged "!" v
  | some ('!' :: name) => .tagged (.ofList name) v
  | _ => v

def scalarValue? (p : Node.Properties) (plain : Bool) (text : List Char) : Option Yaml :=
  let untagged := if plain then ofPlain? text else some (.string (.ofList text))
  match p.tag with
  | none => untagged
  | some ('!' :: _) => untagged.map (withLocalTag p.tag)
  | some tag => ofTagged? tag text

def beginNode (p : Node.Properties) (anchors : Anchors) : Anchors :=
  match p.anchor with
  | none => anchors
  | some a => (a, none) :: anchors

def endNode (p : Node.Properties) (v : Yaml) (anchors : Anchors) : Anchors :=
  match p.anchor with
  | none => anchors
  | some a => (a, some v) :: anchors

mutual

def ofNode? (anchors : Anchors) : Node → Option (Yaml × Anchors)
  | .reference a => do
    let v ← (← anchors.lookup a)
    pure (v, anchors)
  | .scalar p plain text => do
    let v ← scalarValue? p plain text
    pure (v, endNode p v anchors)
  | .sequence p items => do
    let (vs, anchors) ← ofItems? (beginNode p anchors) items
    let v := withLocalTag p.tag (.sequence vs)
    pure (v, endNode p v anchors)
  | .mapping p entries => do
    let (es, anchors) ← ofEntries? (beginNode p anchors) [] entries
    let v := withLocalTag p.tag (.mapping es)
    pure (v, endNode p v anchors)

def ofItems? (anchors : Anchors) : List Node → Option (List Yaml × Anchors)
  | [] => some ([], anchors)
  | n :: ns => do
    let (v, anchors) ← ofNode? anchors n
    let (vs, anchors) ← ofItems? anchors ns
    pure (v :: vs, anchors)

def ofEntries? (anchors : Anchors) (before : List Yaml) :
    List (Node × Node) → Option (List (Yaml × Yaml) × Anchors)
  | [] => some ([], anchors)
  | (k, v) :: rest => do
    let (k, anchors) ← ofNode? anchors k
    if before.any (·.same k) then none
    let (v, anchors) ← ofNode? anchors v
    let (es, anchors) ← ofEntries? anchors (k :: before) rest
    pure ((k, v) :: es, anchors)

end

def depthLimit : Nat := 128

def ofText? (text : String) : Option Yaml := do
  let node ← Node.ofTokens? (← Token.ofText? text.toList)
  if node.multiplies then none
  let (v, _) ← ofNode? [] node
  if v.depth ≤ depthLimit then some v else none

end ThreatModel.Yaml
