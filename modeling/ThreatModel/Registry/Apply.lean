import ThreatModel.Registry
import ThreatModel.Tag.Refs
import ThreatModel.Tag.Statement

namespace ThreatModel.Registry

/-- A registry and the reason why the last step failed, if it did. -/
abbrev Outcome := Registry × Option TagError

def proceed {α : Type} (r : Registry) (step : Except TagError (α × Registry))
    (next : α → Registry → Outcome) : Outcome :=
  match step with
  | .error e => (r, some e)
  | .ok (a, r) => next a r

def addPlace (r : Registry) (p : Place) (next : Place → Registry → Outcome) : Outcome :=
  r.proceed (r.addBoundary p.boundary none) fun boundary r =>
    r.proceed (r.addComponent boundary p.component none) fun component r =>
      next ⟨boundary, component⟩ r

def nameSubject (r : Registry) (name : String) : Subject → Outcome
  | .boundary id => r.proceed (r.addBoundary name (some id)) fun _ r => (r, none)
  | .component boundary id =>
    r.proceed (r.addComponent boundary name (some id)) fun _ r => (r, none)
  | .threat id => r.proceed (r.addThreat name (some id)) fun _ r => (r, none)

def describeIn (m : SortedMap String Entry) (id text : String) : Option (SortedMap String Entry) :=
  (m.get? id).map fun e => m.insert id { e with description := text }

def describeSubject (r : Registry) (text : String) (source : Source) : Subject → Outcome
  | .boundary id =>
    match describeIn r.boundaries id text with
    | none => (r, some (.unknownEntry .boundary id source))
    | some boundaries => ({ r with boundaries }, none)
  | .component boundary id =>
    match r.components.get? boundary with
    | none => (r, some (.unknownBoundary boundary source))
    | some components =>
      match describeIn components id text with
      | none => (r, some (.unknownEntry .component id source))
      | some components =>
        ({ r with components := r.components.insert boundary components }, none)
  | .threat id =>
    match describeIn r.threats id text with
    | none => (r, some (.unknownEntry .threat id source))
    | some threats => ({ r with threats }, none)

def recordStance (r : Registry) (kind : StanceKind) (place : Place) (threat text : String)
    (source : Source) : Registry :=
  let (body, refs) := Tag.splitRefs text.toList
  let text := String.ofList body
  let stance := { boundary := place.boundary, component := place.component, threat, text,
                  refs := refs.map String.ofList, source }
  { r with elements := r.elements.addStance kind (Identifier.ofText text) stance }

def recordReview (r : Registry) (place : Place) (text : String) (source : Source) : Registry :=
  let (body, refs) := Tag.splitRefs text.toList
  let text := String.ofList body
  let review := { boundary := place.boundary, component := place.component, text,
                  refs := refs.map String.ofList, source }
  { r with elements := r.elements.addReview (Identifier.ofText text) review }

/-- A tag registers the names it spells in the order in which its pattern gives them. -/
def placeComesFirst : StanceKind → Bool
  | .mitigation | .exposure => true
  | .acceptance | .transfer => false

def state (r : Registry) (source : Source) : Statement → Outcome
  | .naming subject name => r.nameSubject name subject
  | .describing subject text => r.describeSubject text source subject
  | .connecting origin target direction label =>
    ({ r with dataflow := r.dataflow.add (.between origin target ⟨direction, label, source⟩) },
      none)
  | .reviewing place text =>
    r.addPlace place fun place r => (r.recordReview place text source, none)
  | .standing kind place threat text =>
    if placeComesFirst kind then
      r.addPlace place fun place r =>
        r.proceed (r.addThreat threat none) fun threat r =>
          (r.recordStance kind place threat text source, none)
    else
      r.proceed (r.addThreat threat none) fun threat r =>
        r.addPlace place fun place r => (r.recordStance kind place threat text source, none)

def apply (r : Registry) (tag : Tag) : Outcome :=
  match Statement.ofText? tag.kind tag.text with
  | none => (r, some (.invalidPattern tag.kind tag.source))
  | some s => r.state tag.source s

def inRankOrder (tags : List Tag) : List Tag :=
  tags.mergeSort fun s t => s.kind.rank ≤ t.kind.rank

/-- Applies tags one after the other and collects the errors. -/
def applyEach (r : Registry) : List Tag → Registry × List TagError
  | [] => (r, [])
  | tag :: tags =>
    let (r, error?) := r.apply tag
    let (r, errors) := applyEach r tags
    (r, error?.toList ++ errors)

def applyAll (r : Registry) (tags : List Tag) : Registry × List TagError :=
  r.applyEach (inRankOrder tags)

def applyUntilError (r : Registry) : List Tag → Outcome
  | [] => (r, none)
  | tag :: tags =>
    match r.apply tag with
    | (r, some e) => (r, some e)
    | (r, none) => applyUntilError r tags

def applyAllStrict (r : Registry) (tags : List Tag) : Outcome :=
  r.applyUntilError (inRankOrder tags)

end ThreatModel.Registry
