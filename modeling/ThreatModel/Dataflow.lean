import ThreatModel.SortedMap
import ThreatModel.Source
import ThreatModel.Identifier

namespace ThreatModel

inductive Direction where
  | oneWay
  | bothWays
deriving DecidableEq

namespace Direction

def word : Direction → String
  | oneWay => "uni"
  | bothWays => "bi"

def ofWord? : String → Option Direction
  | "uni" => some oneWay
  | "bi" => some bothWays
  | _ => none

end Direction

structure Edge where
  direction : Direction
  label : Option String := none
  source : Source
deriving DecidableEq

structure Place where
  boundary : String
  component : String
deriving DecidableEq

structure Connection where
  origin : Place
  target : Place
  edge : Edge
deriving DecidableEq

namespace Place

def identified (p : Place) : Place := ⟨Identifier.ofText p.boundary, Identifier.ofText p.component⟩

end Place

namespace Connection

def between (origin target : Place) (edge : Edge) : Connection :=
  ⟨origin.identified, target.identified, edge⟩

end Connection

/-- Edges by boundary and component of the origin, then of the target. -/
structure Dataflow where
  tree : SortedMap String (SortedMap String (SortedMap String (SortedMap String Edge))) := ∅
deriving DecidableEq, Inhabited

namespace Dataflow

def edge? (d : Dataflow) (origin target : Place) : Option Edge := do
  let components ← d.tree.get? origin.boundary
  let boundaries ← components.get? origin.component
  let targets ← boundaries.get? target.boundary
  targets.get? target.component

/-- Adds a connection unless its places are connected already. -/
def add (d : Dataflow) (c : Connection) : Dataflow where
  tree := d.tree.upsert c.origin.boundary fun components =>
    (components.getD ∅).upsert c.origin.component fun boundaries =>
      (boundaries.getD ∅).upsert c.target.boundary fun targets =>
        (targets.getD ∅).insertNew c.target.component c.edge

/-- Adds a connection, and tells whether its places were not connected before. The branches that lead
to the edge are there afterwards in either case. -/
def tryAdd (d : Dataflow) (c : Connection) : Dataflow × Bool :=
  let components := (d.tree.get? c.origin.boundary).getD ∅
  let boundaries := (components.get? c.origin.component).getD ∅
  let targets := (boundaries.get? c.target.boundary).getD ∅
  let known := targets.contains c.target.component
  let targets := if known then targets else targets.insert c.target.component c.edge
  let boundaries := boundaries.insert c.target.boundary targets
  let components := components.insert c.origin.component boundaries
  ({ tree := d.tree.insert c.origin.boundary components }, !known)

def connections (d : Dataflow) : List Connection :=
  d.tree.entries.flatMap fun (ob, components) =>
    components.entries.flatMap fun (oc, boundaries) =>
      boundaries.entries.flatMap fun (tb, targets) =>
        targets.entries.map fun (tc, edge) => ⟨⟨ob, oc⟩, ⟨tb, tc⟩, edge⟩

def isEmpty (d : Dataflow) : Bool := d.tree.isEmpty

def merge (d e : Dataflow) : Dataflow := e.connections.foldl add d

end Dataflow

end ThreatModel
