import ThreatModel.Document

namespace ThreatModel

structure ReferenceIssue where
  /-- The project and the kind of an element, or `dfd` for an edge. -/
  context : String
  cls : EntryClass
  id : String
  location : String
deriving DecidableEq

namespace ReferenceIssue

def message (i : ReferenceIssue) : String :=
  i.context ++ ": unknown " ++ i.cls.word ++ " " ++ i.id ++ " (" ++ i.location ++ ")"

end ReferenceIssue

namespace Document

/-- The issues of a component in its boundary; either may be missing without the other. -/
def placeIssues (d : Document) (context : String) (place : Place) (location : String) :
    List ReferenceIssue :=
  (if d.boundaries.contains place.boundary then []
    else [⟨context, .boundary, place.boundary, location⟩]) ++
  (if (d.component? place.boundary place.component).isSome then []
    else [⟨context, .component, place.boundary ++ ":" ++ place.component, location⟩])

def elementContext (project : String) (e : Element) : String := project ++ "/" ++ e.word

def elementPlaceIssues (d : Document) (project : String) (e : Element) : List ReferenceIssue :=
  d.placeIssues (elementContext project e) ⟨e.boundary, e.component⟩ e.source.location

def elementThreatIssues (d : Document) (project : String) (e : Element) : List ReferenceIssue :=
  match e.threat? with
  | none => []
  | some threat =>
    if d.threats.contains threat then []
    else [⟨elementContext project e, .threat, threat, e.source.location⟩]

def connectionIssues (d : Document) (c : Connection) : List ReferenceIssue :=
  d.placeIssues "dfd" c.origin c.edge.source.location ++
  d.placeIssues "dfd" c.target c.edge.source.location

def issuesOfElements (d : Document) (check : String → Element → List ReferenceIssue) :
    List ReferenceIssue :=
  d.projects.entries.flatMap fun (project, es) => es.toList.flatMap (check project)

/-- The issues of elements, then of edges, and those of threats at the end. -/
def referenceIssues (d : Document) : List ReferenceIssue :=
  d.issuesOfElements d.elementPlaceIssues ++
  d.dataflow.connections.flatMap d.connectionIssues ++
  d.issuesOfElements d.elementThreatIssues

end Document

end ThreatModel
