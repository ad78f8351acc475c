namespace ThreatModel

structure Entry where
  name : String
  description : String := ""
  references : List String := []
  /-- The identifier of the threat above this one in a hierarchy. -/
  parent : Option String := none
deriving DecidableEq, Inhabited

inductive EntryClass where
  | boundary
  | component
  | threat
deriving DecidableEq

namespace EntryClass

def word : EntryClass → String
  | boundary => "boundary"
  | component => "component"
  | threat => "threat"

end EntryClass

end ThreatModel
