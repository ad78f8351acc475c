import ThreatModel.Document
import ThreatModel.Indexed

namespace ThreatModel.IndexedModel

def stancePlace (s : Stance) : Place := ⟨s.boundary, s.component⟩

def usedPlaces (d : Document) (es : Elements) : List Place :=
  (es.exposures.values.flatten ++ es.mitigations.values.flatten).map stancePlace ++
  d.dataflow.connections.flatMap fun c => [c.origin, c.target]

/-- The boundaries and the places in use, each at the position that is its number. -/
structure Numbering where
  boundaries : List String
  places : List Place

namespace Numbering

def ofPlaces (ps : List Place) : Numbering := ⟨(ps.map (·.boundary)).eraseDups, ps.eraseDups⟩

def boundary (n : Numbering) (p : Place) : Nat := n.boundaries.idxOf p.boundary

def component (n : Numbering) (p : Place) : Nat := n.places.idxOf p

end Numbering

def boundaryName (d : Document) (id : String) : Named :=
  ⟨(d.boundaries.get? id).elim id (·.name)⟩

def componentName (d : Document) (p : Place) : Named :=
  ⟨(d.component? p.boundary p.component).elim p.component (·.name)⟩

def exposesEntry (n : Numbering) (s : Stance) : ExposesEntry where
  boundary := n.boundary (stancePlace s)
  component := n.component (stancePlace s)
  exposure := s.text
  refs := s.refs
  threat := s.threat

def mitigatesEntry (n : Numbering) (s : Stance) : MitigatesEntry where
  boundary := n.boundary (stancePlace s)
  component := n.component (stancePlace s)
  mitigation := s.text
  refs := s.refs
  threat := s.threat

def flow (n : Numbering) (source target : Place) (message : String) : SendsEntry where
  srcBoundary := n.boundary source
  srcComponent := n.component source
  dstBoundary := n.boundary target
  dstComponent := n.component target
  message

/-- An edge is one message, or one in either direction. -/
def flows (n : Numbering) (c : Connection) : List SendsEntry :=
  let message := c.edge.label.getD ""
  match c.edge.direction with
  | .oneWay => [flow n c.origin c.target message]
  | .bothWays => [flow n c.origin c.target message, flow n c.target c.origin message]

def threatNames (d : Document) (es : Elements) : SortedMap String String :=
  (es.exposures.values.flatten ++ es.mitigations.values.flatten).foldl
    (fun names s => names.insertNew s.threat s.threat) (d.threats.mapValues fun _ t => t.name)

def projectModel (d : Document) (es : Elements) (n : Numbering) : ProjectModel where
  exposes := .ofPositions (es.exposures.values.flatten.map (exposesEntry n))
  sends := .ofPositions (d.dataflow.connections.flatMap (flows n))
  mitigates := .ofPositions (es.mitigations.values.flatten.map (mitigatesEntry n))

def ofElements (d : Document) (project : String) (es : Elements) : IndexedModel :=
  let n := Numbering.ofPlaces (usedPlaces d es)
  { boundaries := (∅ : SortedMap String (SortedMap Nat Named)).insert project
      (.ofPositions (n.boundaries.map (boundaryName d)))
    components := (∅ : SortedMap String (SortedMap Nat Named)).insert project
      (.ofPositions (n.places.map (componentName d)))
    models := (∅ : SortedMap String ProjectModel).insert project (projectModel d es n)
    threats := threatNames d es }

def ofDocument (d : Document) (project : String) : Except ModelError IndexedModel :=
  match d.projects.get? project with
  | none => .error (.unknownProject project)
  | some es => .ok (ofElements d project es)

end ThreatModel.IndexedModel
