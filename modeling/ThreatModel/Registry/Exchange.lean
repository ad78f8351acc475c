import ThreatModel.Document
import ThreatModel.Registry

namespace ThreatModel.Registry

/-- Takes over the entries of a document that are not registered yet. -/
def importEntries (r : Registry) (d : Document) : Registry :=
  { r with
    boundaries := r.boundaries.union d.boundaries
    components := r.components.mergeWith SortedMap.union d.components
    threats := r.threats.union d.threats }

def toDocument (r : Registry) (project : String) : Document where
  times := ⟨r.created, r.updated⟩
  boundaries := r.boundaries
  components := r.components
  threats := r.threats
  dataflow := r.dataflow
  projects := (∅ : SortedMap String Elements).insert project r.elements

end ThreatModel.Registry
