import ThreatModel.Indexed
import ThreatModel.Json.Printer
import ThreatModel.Json.Record

namespace ThreatModel

open Json

namespace Named

def toJson (n : Named) : Json := .object [("name", .string n.name)]

def fromJson? {σ : Type} [Layered σ] (v : σ) : Option Named := do
  let fs ← asRecord? ["name"] v
  pure { name := ← fs.required? "name" asString? }

end Named

namespace ExposesEntry

def toJson (e : ExposesEntry) : Json :=
  .object [("boundary", .nat e.boundary), ("component", .nat e.component),
    ("exposure", .string e.exposure), ("ref", .ofStrings e.refs),
    ("threat", .string e.threat)]

def fromJson? {σ : Type} [Layered σ] (v : σ) : Option ExposesEntry := do
  let fs ← asRecord? ["boundary", "component", "exposure", "ref", "threat"] v
  pure {
    boundary := ← fs.required? "boundary" asIndex?
    component := ← fs.required? "component" asIndex?
    exposure := ← fs.required? "exposure" asString?
    refs := ← fs.withDefault? "ref" (asList? asString?) []
    threat := ← fs.required? "threat" asString? }

end ExposesEntry

namespace SendsEntry

def toJson (e : SendsEntry) : Json :=
  .object [("srcboundary", .nat e.srcBoundary), ("srccomponent", .nat e.srcComponent),
    ("dstboundary", .nat e.dstBoundary), ("dstcomponent", .nat e.dstComponent),
    ("message", .string e.message)]

def fromJson? {σ : Type} [Layered σ] (v : σ) : Option SendsEntry := do
  let fs ← asRecord? ["srcboundary", "srccomponent", "dstboundary", "dstcomponent", "message"] v
  pure {
    srcBoundary := ← fs.required? "srcboundary" asIndex?
    srcComponent := ← fs.required? "srccomponent" asIndex?
    dstBoundary := ← fs.required? "dstboundary" asIndex?
    dstComponent := ← fs.required? "dstcomponent" asIndex?
    message := ← fs.withDefault? "message" asString? "" }

end SendsEntry

namespace MitigatesEntry

def toJson (e : MitigatesEntry) : Json :=
  .object [("boundary", .nat e.boundary), ("component", .nat e.component),
    ("mitigation", .string e.mitigation), ("ref", .ofStrings e.refs),
    ("threat", .string e.threat)]

def fromJson? {σ : Type} [Layered σ] (v : σ) : Option MitigatesEntry := do
  let fs ← asRecord? ["boundary", "component", "mitigation", "ref", "threat"] v
  pure {
    boundary := ← fs.required? "boundary" asIndex?
    component := ← fs.required? "component" asIndex?
    mitigation := ← fs.required? "mitigation" asString?
    refs := ← fs.withDefault? "ref" (asList? asString?) []
    threat := ← fs.required? "threat" asString? }

end MitigatesEntry

namespace ProjectModel

def sectionToJson {α : Type} (name : String) (f : α → Json) (m : SortedMap Nat α) :
    List (String × Json) :=
  if m.isEmpty then [] else [(name, Json.ofIndexMap f m)]

def toJson (p : ProjectModel) : Json :=
  .object (sectionToJson "exposes" ExposesEntry.toJson p.exposes ++
    sectionToJson "sends" SendsEntry.toJson p.sends ++
    sectionToJson "mitigates" MitigatesEntry.toJson p.mitigates)

def fromJson? {σ : Type} [Layered σ] (v : σ) : Option ProjectModel := do
  let fs ← asRecord? ["exposes", "sends", "mitigates"] v
  pure {
    exposes := ← fs.withDefault? "exposes" (asIndexMap? ExposesEntry.fromJson?) ∅
    sends := ← fs.withDefault? "sends" (asIndexMap? SendsEntry.fromJson?) ∅
    mitigates := ← fs.withDefault? "mitigates" (asIndexMap? MitigatesEntry.fromJson?) ∅ }

end ProjectModel

namespace IndexedModel

def toJson (m : IndexedModel) : Json :=
  .object [("boundaries", Json.ofMap (Json.ofIndexMap Named.toJson) m.boundaries),
    ("components", Json.ofMap (Json.ofIndexMap Named.toJson) m.components),
    ("models", Json.ofMap ProjectModel.toJson m.models),
    ("threats", Json.ofMap .string m.threats)]

def fromJson? {σ : Type} [Layered σ] (v : σ) : Option IndexedModel := do
  let fs ← asRecord? ["boundaries", "components", "models", "threats"] v
  pure {
    boundaries := ← fs.withDefault? "boundaries" (asMap? (asIndexMap? Named.fromJson?)) ∅
    components := ← fs.withDefault? "components" (asMap? (asIndexMap? Named.fromJson?)) ∅
    models := ← fs.withDefault? "models" (asMap? ProjectModel.fromJson?) ∅
    threats := ← fs.withDefault? "threats" (asMap? asString?) ∅ }

def load? (text : String) : Option IndexedModel := do
  fromJson? (← Written.ofText? text.toList)

def pretty (m : IndexedModel) : String := m.toJson.pretty

end IndexedModel

end ThreatModel
