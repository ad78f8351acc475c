import ThreatModel.Dataflow
import ThreatModel.Element
import ThreatModel.Entry
import ThreatModel.Identifier
import ThreatModel.Registry.Error

namespace ThreatModel

structure Registry where
  created : Int := 0
  updated : Int := 0
  boundaries : SortedMap String Entry := ∅
  /-- Components by the identifier of their boundary, then by their own. -/
  components : SortedMap String (SortedMap String Entry) := ∅
  threats : SortedMap String Entry := ∅
  dataflow : Dataflow := {}
  elements : Elements := {}
deriving DecidableEq, Inhabited

/-- How a name stands for an entry: it is the identifier already, or one is chosen for it. -/
inductive Naming where
  | identifier
  | named (id : String)
deriving DecidableEq

namespace Naming

/-- The identifier `id` if given, or one derived from the name, which then must not be empty. -/
def of (cls : EntryClass) (name : String) (id : Option String) : Except TagError Naming :=
  if Identifier.isIdentifier name then
    match id with
    | some _ => .error (.identifierConflict cls name)
    | none => .ok identifier
  else
    match id with
    | some id => .ok (named id)
    | none =>
      if Identifier.ofText name = Identifier.bare then .error (.emptyIdentifier cls name)
      else .ok (named (Identifier.ofText name))

end Naming

namespace Registry

def addBoundary (r : Registry) (name : String) (id : Option String) :
    Except TagError (String × Registry) := do
  match ← Naming.of .boundary name id with
  | .identifier => .ok (name, r)
  | .named id => .ok (id, { r with boundaries := r.boundaries.insertNew id { name } })

def addComponent (r : Registry) (boundary name : String) (id : Option String) :
    Except TagError (String × Registry) := do
  match ← Naming.of .component name id with
  | .identifier => .ok (name, r)
  | .named id =>
    .ok (id, { r with
      components := r.components.upsert boundary fun held => (held.getD ∅).insertNew id { name } })

def addThreat (r : Registry) (name : String) (id : Option String) :
    Except TagError (String × Registry) := do
  match ← Naming.of .threat name id with
  | .identifier => .ok (name, r)
  | .named id => .ok (id, { r with threats := r.threats.insertNew id { name } })

def elementCount (r : Registry) : Nat := r.elements.count

end Registry

end ThreatModel
