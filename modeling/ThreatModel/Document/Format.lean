import ThreatModel.Document
import ThreatModel.Json.Printer
import ThreatModel.Json.Record

namespace ThreatModel

open Json

namespace Source

def toJson (s : Source) : Json :=
  .object [("file", .string s.file), ("line", .nat s.line), ("function", .string s.function)]

def fromJson? {σ : Type} [Layered σ] (v : σ) : Option Source := do
  let fs ← asRecord? ["file", "line", "function"] v
  pure {
    file := ← fs.required? "file" asString?
    line := ← fs.required? "line" asIndex?
    function := ← fs.required? "function" asString? }

end Source

namespace Entry

def toJson (e : Entry) : Json :=
  .object <|
    [("name", .string e.name)] ++
    (if e.description.isEmpty then [] else [("description", .string e.description)]) ++
    (if e.references.isEmpty then [] else [("references", .ofStrings e.references)]) ++
    e.parent.toList.map fun p => ("parent", .string p)

def fromJson? {σ : Type} [Layered σ] (v : σ) : Option Entry := do
  let fs ← asRecord? ["name", "description", "references", "parent"] v
  pure {
    name := ← fs.required? "name" asString?
    description := ← fs.withDefault? "description" asString? ""
    references := ← fs.withDefault? "references" (asList? asString?) []
    parent := ← fs.withDefault? "parent" (asOption? asString?) none }

end Entry

namespace Direction

/-- A direction is its word, or an object with the word as its one field and null as the value. -/
def fromJson? {σ : Type} [Layered σ] (v : σ) : Option Direction :=
  match layer v with
  | .string s => ofWord? s
  | .object [(k, v)] =>
    match layer v with
    | .null => (Key.text? k).bind ofWord?
    | _ => none
  | _ => none

end Direction

namespace Edge

def toJson (e : Edge) : Json :=
  .object <|
    [("type", .string e.direction.word)] ++ (e.label.toList.map fun l => ("name", .string l)) ++
    [("source", e.source.toJson)]

def fromJson? {σ : Type} [Layered σ] (v : σ) : Option Edge := do
  let fs ← asRecord? ["type", "name", "source"] v
  pure {
    direction := ← fs.required? "type" Direction.fromJson?
    label := ← fs.withDefault? "name" (asOption? asString?) none
    source := ← fs.required? "source" Source.fromJson? }

end Edge

namespace Dataflow

def toJson (d : Dataflow) : Json :=
  .ofMap (.ofMap (.ofMap (.ofMap Edge.toJson))) d.tree

def fromJson? {σ : Type} [Layered σ] (v : σ) : Option Dataflow :=
  (asMap? (asMap? (asMap? (asMap? Edge.fromJson?))) v).map fun tree => { tree }

end Dataflow

namespace Stance

def toJson (kind : StanceKind) (s : Stance) : Json :=
  .object [("boundary", .string s.boundary), ("component", .string s.component),
    ("threat", .string s.threat), (kind.word, .string s.text),
    ("refs", .ofStrings s.refs), ("source", s.source.toJson)]

def fromJson? {σ : Type} [Layered σ] (kind : StanceKind) (v : σ) : Option Stance := do
  let fs ← asRecord? ["boundary", "component", "threat", kind.word, "refs", "source"] v
  pure {
    boundary := ← fs.required? "boundary" asString?
    component := ← fs.required? "component" asString?
    threat := ← fs.required? "threat" asString?
    text := ← fs.required? kind.word asString?
    refs := ← fs.withDefault? "refs" (asList? asString?) []
    source := ← fs.required? "source" Source.fromJson? }

end Stance

namespace Review

def toJson (r : Review) : Json :=
  .object [("boundary", .string r.boundary), ("component", .string r.component),
    ("review", .string r.text), ("refs", .ofStrings r.refs),
    ("source", r.source.toJson)]

def fromJson? {σ : Type} [Layered σ] (v : σ) : Option Review := do
  let fs ← asRecord? ["boundary", "component", "review", "refs", "source"] v
  pure {
    boundary := ← fs.required? "boundary" asString?
    component := ← fs.required? "component" asString?
    text := ← fs.required? "review" asString?
    refs := ← fs.withDefault? "refs" (asList? asString?) []
    source := ← fs.required? "source" Source.fromJson? }

end Review

namespace Elements

def mapToJson {α : Type} (f : α → Json) (m : ElementMap α) : Json :=
  .ofMap (fun items => .array (items.map f)) m

def toJson (es : Elements) : Json :=
  .object [("mitigations", mapToJson (Stance.toJson .mitigation) es.mitigations),
    ("exposures", mapToJson (Stance.toJson .exposure) es.exposures),
    ("acceptances", mapToJson (Stance.toJson .acceptance) es.acceptances),
    ("transfers", mapToJson (Stance.toJson .transfer) es.transfers),
    ("reviews", mapToJson Review.toJson es.reviews)]

def fromJson? {σ : Type} [Layered σ] (v : σ) : Option Elements := do
  let fs ← asRecord? ["mitigations", "exposures", "acceptances", "transfers", "reviews"] v
  let stances (name : String) (kind : StanceKind) : Option (ElementMap Stance) :=
    fs.withDefault? name (asMap? (asList? (Stance.fromJson? kind))) ∅
  pure {
    mitigations := ← stances "mitigations" .mitigation
    exposures := ← stances "exposures" .exposure
    acceptances := ← stances "acceptances" .acceptance
    transfers := ← stances "transfers" .transfer
    reviews := ← fs.withDefault? "reviews" (asMap? (asList? Review.fromJson?)) ∅ }

end Elements

namespace Specification

def toJson (s : Specification) : Json :=
  .object [("name", .string s.name), ("version", .string s.version)]

def fromJson? {σ : Type} [Layered σ] (v : σ) : Option Specification := do
  let fs ← asRecord? ["name", "version"] v
  pure {
    name := ← fs.required? "name" asString?
    version := ← fs.required? "version" asString? }

end Specification

namespace Timestamps

def toJson (t : Timestamps) : Json :=
  .object [("created", .int t.created), ("updated", .int t.updated)]

def fromJson? {σ : Type} [Layered σ] (v : σ) : Option Timestamps := do
  let fs ← asRecord? ["created", "updated"] v
  pure {
    created := ← fs.required? "created" asInt64?
    updated := ← fs.required? "updated" asInt64? }

end Timestamps

namespace Document

def toJson (d : Document) : Json :=
  .object [("specification", d.specification.toJson), ("document", d.times.toJson),
    ("boundaries", .ofMap Entry.toJson d.boundaries),
    ("components", .ofMap (.ofMap Entry.toJson) d.components),
    ("threats", .ofMap Entry.toJson d.threats), ("dfd", d.dataflow.toJson),
    ("projects", .ofMap Elements.toJson d.projects)]

def fromJson? {σ : Type} [Layered σ] (v : σ) : Option Document := do
  let fs ← asRecord?
    ["specification", "document", "boundaries", "components", "threats", "dfd", "projects"] v
  pure {
    specification := ← fs.withDefault? "specification" Specification.fromJson? {}
    times := ← fs.withDefault? "document" Timestamps.fromJson? {}
    boundaries := ← fs.withDefault? "boundaries" (asMap? Entry.fromJson?) ∅
    components := ← fs.withDefault? "components" (asMap? (asMap? Entry.fromJson?)) ∅
    threats := ← fs.withDefault? "threats" (asMap? Entry.fromJson?) ∅
    dataflow := ← fs.withDefault? "dfd" Dataflow.fromJson? {}
    projects := ← fs.withDefault? "projects" (asMap? Elements.fromJson?) ∅ }

def load? (text : String) : Option Document := do
  fromJson? (← Written.ofText? text.toList)

def save (d : Document) : String := d.toJson.pretty ++ "\n"

end Document

end ThreatModel
