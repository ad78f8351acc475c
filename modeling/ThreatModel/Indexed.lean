import ThreatModel.SortedMap

namespace ThreatModel

structure Named where
  name : String
deriving DecidableEq, Inhabited

structure ExposesEntry where
  boundary : Nat
  component : Nat
  exposure : String
  refs : List String := []
  threat : String
deriving DecidableEq

structure SendsEntry where
  srcBoundary : Nat
  srcComponent : Nat
  dstBoundary : Nat
  dstComponent : Nat
  message : String := ""
deriving DecidableEq

structure MitigatesEntry where
  boundary : Nat
  component : Nat
  mitigation : String
  refs : List String := []
  threat : String
deriving DecidableEq

structure ProjectModel where
  exposes : SortedMap Nat ExposesEntry := ∅
  sends : SortedMap Nat SendsEntry := ∅
  mitigates : SortedMap Nat MitigatesEntry := ∅
deriving DecidableEq, Inhabited

structure IndexedModel where
  boundaries : SortedMap String (SortedMap Nat Named) := ∅
  components : SortedMap String (SortedMap Nat Named) := ∅
  models : SortedMap String ProjectModel := ∅
  threats : SortedMap String String := ∅
deriving DecidableEq, Inhabited

inductive ModelError where
  | unknownProject (project : String)
deriving DecidableEq

namespace ModelError

def message : ModelError → String
  | unknownProject project => "Project not found: " ++ project

end ModelError

namespace ProjectModel

def isEmpty (m : ProjectModel) : Bool := m.exposes.isEmpty && m.sends.isEmpty && m.mitigates.isEmpty

end ProjectModel

namespace IndexedModel

def projects (m : IndexedModel) : List String :=
  ((m.boundaries.keys ++ m.components.keys ++ m.models.keys).foldl (fun s p => s.insert p ())
    (∅ : SortedMap String Unit)).keys

def model (m : IndexedModel) (project : String) : Except ModelError ProjectModel :=
  match m.models.get? project with
  | some p => .ok p
  | none => .error (.unknownProject project)

def boundary? (m : IndexedModel) (project : String) (i : Nat) : Option Named := do
  (← m.boundaries.get? project).get? i

def component? (m : IndexedModel) (project : String) (i : Nat) : Option Named := do
  (← m.components.get? project).get? i

def threatName? (m : IndexedModel) (id : String) : Option String := m.threats.get? id

end IndexedModel

end ThreatModel
