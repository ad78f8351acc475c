import ThreatModel.Indexed
import ThreatModel.Text.Decimal

namespace ThreatModel

inductive ModelSection where
  | exposes
  | sends
  | mitigates
deriving DecidableEq

/-- A reference of an entry; `field` is the attribute that holds it. -/
inductive Reference where
  | boundary (field : String) (index : Nat)
  | component (field : String) (index : Nat)
  | threat (id : String)
deriving DecidableEq

structure IntegrityIssue where
  project : String
  part : ModelSection
  index : Nat
  reference : Reference
deriving DecidableEq

namespace ModelSection

def word : ModelSection → String
  | exposes => "exposes"
  | sends => "sends"
  | mitigates => "mitigates"

end ModelSection

namespace Reference

def numeral (n : Nat) : String := .ofList (Text.decimal n)

def message : Reference → String
  | boundary field index => field ++ " " ++ numeral index ++ " is not a known boundary"
  | component field index => field ++ " " ++ numeral index ++ " is not a known component"
  | threat id => "threat " ++ id ++ " is not in the threat catalog"

end Reference

namespace IntegrityIssue

def message (i : IntegrityIssue) : String :=
  i.project ++ ": " ++ i.part.word ++ "[" ++ Reference.numeral i.index ++ "]: " ++
    i.reference.message

end IntegrityIssue

namespace ExposesEntry

def references (e : ExposesEntry) : List Reference :=
  [.boundary "boundary" e.boundary, .component "component" e.component, .threat e.threat]

end ExposesEntry

namespace SendsEntry

def references (e : SendsEntry) : List Reference :=
  [.boundary "srcboundary" e.srcBoundary, .component "srccomponent" e.srcComponent,
    .boundary "dstboundary" e.dstBoundary, .component "dstcomponent" e.dstComponent]

end SendsEntry

namespace MitigatesEntry

def references (e : MitigatesEntry) : List Reference :=
  [.boundary "boundary" e.boundary, .component "component" e.component, .threat e.threat]

end MitigatesEntry

namespace IndexedModel

def resolves (m : IndexedModel) (project : String) : Reference → Bool
  | .boundary _ i => (m.boundary? project i).isSome
  | .component _ i => (m.component? project i).isSome
  | .threat id => (m.threatName? id).isSome

def entryIssues (m : IndexedModel) (project : String) (part : ModelSection) (index : Nat)
    (refs : List Reference) : List IntegrityIssue :=
  (refs.filter (!m.resolves project ·)).map (⟨project, part, index, ·⟩)

def projectIssues (m : IndexedModel) (project : String) (p : ProjectModel) : List IntegrityIssue :=
  (p.exposes.entries.flatMap fun (i, e) => m.entryIssues project .exposes i e.references) ++
  (p.sends.entries.flatMap fun (i, e) => m.entryIssues project .sends i e.references) ++
  (p.mitigates.entries.flatMap fun (i, e) => m.entryIssues project .mitigates i e.references)

def issues (m : IndexedModel) : List IntegrityIssue :=
  m.models.entries.flatMap fun (project, p) => m.projectIssues project p

def isValid (m : IndexedModel) : Bool := m.issues.isEmpty

end IndexedModel

end ThreatModel
