import ThreatModel.Dataflow
import ThreatModel.Element
import ThreatModel.Entry

namespace ThreatModel

structure Specification where
  name : String := "ThreatSpec"
  version : String := "0.1.0"
deriving DecidableEq, Inhabited

/-- Times in milliseconds since 1970. -/
structure Timestamps where
  created : Int := 0
  updated : Int := 0
deriving DecidableEq, Inhabited

structure Document where
  specification : Specification := {}
  times : Timestamps := {}
  boundaries : SortedMap String Entry := ∅
  /-- Components by the identifier of their boundary, then by their own. -/
  components : SortedMap String (SortedMap String Entry) := ∅
  threats : SortedMap String Entry := ∅
  dataflow : Dataflow := {}
  projects : SortedMap String Elements := ∅
deriving DecidableEq, Inhabited

namespace Timestamps

/-- The earlier of two times of creation, where zero stands for none. -/
def earliest (a b : Int) : Int := if a = 0 then b else if b = 0 then a else min a b

def merge (s t : Timestamps) : Timestamps := ⟨earliest s.created t.created, max s.updated t.updated⟩

end Timestamps

namespace Document

def component? (d : Document) (boundary component : String) : Option Entry := do
  (← d.components.get? boundary).get? component

/-- Shared entries and edges of the first document are kept, and those of the second added; elements
of the second follow those of the first. -/
def merge (d e : Document) : Document where
  specification := d.specification
  times := d.times.merge e.times
  boundaries := d.boundaries.union e.boundaries
  components := d.components.mergeWith SortedMap.union e.components
  threats := d.threats.union e.threats
  dataflow := d.dataflow.merge e.dataflow
  projects := d.projects.mergeWith Elements.merge e.projects

def mergeAll : List Document → Document
  | [] => {}
  | d :: ds => ds.foldl merge d

end Document

end ThreatModel
