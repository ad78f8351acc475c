import ThreatModel.Document

namespace ThreatModel

inductive CoverageStatus where
  | exposed
  | mitigated
  | transferred
  | accepted
  | unknown
deriving DecidableEq

namespace CoverageStatus

def word : CoverageStatus → String
  | exposed => "exposed"
  | mitigated => "mitigated"
  | transferred => "transferred"
  | accepted => "accepted"
  | unknown => "unknown"

end CoverageStatus

structure Coverage where
  id : String
  name : String
  mitigations : Nat := 0
  exposures : Nat := 0
  transfers : Nat := 0
  acceptances : Nat := 0
deriving DecidableEq

namespace Coverage

def status (c : Coverage) : CoverageStatus :=
  if 0 < c.mitigations then .mitigated
  else if 0 < c.transfers then .transferred
  else if 0 < c.acceptances then .accepted
  else if 0 < c.exposures then .exposed
  else .unknown

def count (c : Coverage) : StanceKind → Coverage
  | .mitigation => { c with mitigations := c.mitigations + 1 }
  | .exposure => { c with exposures := c.exposures + 1 }
  | .transfer => { c with transfers := c.transfers + 1 }
  | .acceptance => { c with acceptances := c.acceptances + 1 }

end Coverage

namespace Document

def elements (d : Document) : List Element := d.projects.values.flatMap Elements.toList

def threatName (d : Document) (id : String) : String := (d.threats.get? id).elim id (·.name)

def cover (d : Document) (rows : SortedMap String Coverage) : Element → SortedMap String Coverage
  | .stance kind s =>
    rows.upsert s.threat fun row =>
      (row.getD { id := s.threat, name := d.threatName s.threat }).count kind
  | .review _ => rows

/-- One row for every threat that an element refers to, in ascending order. -/
def coverage (d : Document) : List Coverage := (d.elements.foldl d.cover ∅).values

end Document

end ThreatModel
