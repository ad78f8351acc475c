import ThreatModel.Indexed.Numbering

namespace ThreatModel

instance : LT Place :=
  ⟨fun p q => p.boundary < q.boundary ∨ p.boundary = q.boundary ∧ p.component < q.component⟩

instance : DecidableLT Place := fun p q =>
  inferInstanceAs (Decidable
    (p.boundary < q.boundary ∨ p.boundary = q.boundary ∧ p.component < q.component))

instance : OrderedKey Place where
  irrefl p less := by
    rcases less with less | ⟨_, less⟩ <;> exact OrderedKey.irrefl _ less
  trans {p q r} first second := by
    rcases first with first | ⟨same, first⟩ <;> rcases second with second | ⟨same', second⟩
    · exact .inl (OrderedKey.trans first second)
    · exact .inl (same' ▸ first)
    · exact .inl (same.symm ▸ second)
    · exact .inr ⟨same.trans same', OrderedKey.trans first second⟩
  connex {p q} notLess notGreater := by
    obtain ⟨pb, pc⟩ := p
    obtain ⟨qb, qc⟩ := q
    obtain rfl : pb = qb :=
      OrderedKey.connex (fun less => notLess (.inl less)) fun less => notGreater (.inl less)
    obtain rfl : pc = qc := OrderedKey.connex (fun less => notLess (.inr ⟨rfl, less⟩))
      fun less => notGreater (.inr ⟨rfl, less⟩)
    rfl

namespace IndexedModel

/-- Items with their numbers, and the names of the items by number. -/
structure Register (κ : Type) [LT κ] where
  numbers : SortedMap κ Nat := ∅
  names : SortedMap Nat Named := ∅

def Register.number {κ : Type} [LT κ] [DecidableLT κ] [OrderedKey κ] (name : κ → Named)
    (r : Register κ) (k : κ) : Nat × Register κ :=
  match r.numbers.get? k with
  | some i => (i, r)
  | none =>
    let i := r.numbers.size
    (i, { numbers := r.numbers.insert k i, names := r.names.insert i (name k) })

structure Indexer where
  boundaries : Register String := {}
  components : Register Place := {}

def Indexer.place (d : Document) (x : Indexer) (p : Place) : (Nat × Nat) × Indexer :=
  let (b, boundaries) := x.boundaries.number (boundaryName d) p.boundary
  let (c, components) := x.components.number (componentName d) p
  ((b, c), { boundaries, components })

def append {ν : Type} (entries : SortedMap Nat ν) (entry : ν) : SortedMap Nat ν :=
  entries.insert entries.size entry

structure Progress (ν : Type) where
  indexer : Indexer
  threats : SortedMap String String
  entries : SortedMap Nat ν := ∅

def Progress.addStance {ν : Type} (d : Document) (entry : Nat → Nat → Stance → ν)
    (p : Progress ν) (s : Stance) : Progress ν :=
  let ((b, c), indexer) := p.indexer.place d (stancePlace s)
  { indexer
    threats := p.threats.insertNew s.threat s.threat
    entries := append p.entries (entry b c s) }

def exposing (b c : Nat) (s : Stance) : ExposesEntry where
  boundary := b
  component := c
  exposure := s.text
  refs := s.refs
  threat := s.threat

def mitigating (b c : Nat) (s : Stance) : MitigatesEntry where
  boundary := b
  component := c
  mitigation := s.text
  refs := s.refs
  threat := s.threat

def addConnection (d : Document) (p : Indexer × SortedMap Nat SendsEntry) (c : Connection) :
    Indexer × SortedMap Nat SendsEntry :=
  let ((srcBoundary, srcComponent), indexer) := p.1.place d c.origin
  let ((dstBoundary, dstComponent), indexer) := indexer.place d c.target
  let message := c.edge.label.getD ""
  let sends := append p.2 { srcBoundary, srcComponent, dstBoundary, dstComponent, message }
  match c.edge.direction with
  | .oneWay => (indexer, sends)
  | .bothWays => (indexer, append sends {
      srcBoundary := dstBoundary, srcComponent := dstComponent
      dstBoundary := srcBoundary, dstComponent := srcComponent, message })

/-- The indexed model of a project in one pass over its exposures, its mitigations and the edges,
with the numbers given out on the way. -/
def convert (d : Document) (project : String) (es : Elements) : IndexedModel :=
  let declared := d.threats.mapValues fun _ t => t.name
  let exposed := es.exposures.values.flatten.foldl (Progress.addStance d exposing)
    { indexer := {}, threats := declared }
  let mitigated := es.mitigations.values.flatten.foldl (Progress.addStance d mitigating)
    { indexer := exposed.indexer, threats := exposed.threats }
  let (indexer, sends) := d.dataflow.connections.foldl (addConnection d) (mitigated.indexer, ∅)
  let model : ProjectModel :=
    { exposes := exposed.entries, sends, mitigates := mitigated.entries }
  { boundaries := (∅ : SortedMap String (SortedMap Nat Named)).insert project
      indexer.boundaries.names
    components := (∅ : SortedMap String (SortedMap Nat Named)).insert project
      indexer.components.names
    models := (∅ : SortedMap String ProjectModel).insert project model
    threats := mitigated.threats }

end IndexedModel

end ThreatModel
