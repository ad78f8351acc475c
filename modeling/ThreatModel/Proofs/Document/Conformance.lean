import ThreatModel.Document.Format
import ThreatModel.Proofs.Element
import ThreatModel.Proofs.Schema.Acceptance

namespace ThreatModel

open Schema

variable {follow : String → Json → List Problem}

theorem accepts_ofStrings (ss : List String) :
    Accepts follow Intermediate.references (.ofStrings ss) :=
  accepts_listOf.2 (List.forall_mem_map.2 fun s _ => accepts_text s)

theorem Source.accepts_toJson (s : Source) : Accepts follow Intermediate.source s.toJson := by
  have line : Accepts follow count (.nat s.line) := accepts_count.2 (Int.natCast_nonneg _)
  refine accepts_closedRecord.2 ?_
  simp [List.lookup_cons, accepts_text, line]

theorem Entry.accepts_toJson (e : Entry) : Accepts follow Intermediate.entry e.toJson := by
  refine accepts_closedRecord.2 ?_
  cases e.parent <;> by_cases described : e.description.isEmpty <;>
    by_cases referring : e.references.isEmpty <;>
    simp [List.lookup_cons, described, referring, accepts_text, accepts_ofStrings]

theorem Edge.accepts_toJson (e : Edge) : Accepts follow Intermediate.edge e.toJson := by
  have direction : Accepts follow (.rules [.values [.string "uni", .string "bi"]])
      (.string e.direction.word) := by
    rw [accepts_rules]
    cases e.direction <;> simp [keywordProblems, Direction.word, Json.same]
  refine accepts_closedRecord.2 ?_
  cases e.label <;> simp [List.lookup_cons, accepts_text, Source.accepts_toJson, direction]

theorem Dataflow.accepts_toJson (d : Dataflow) :
    Accepts follow (mapOf (mapOf (mapOf (mapOf Intermediate.edge)))) d.toJson := by
  simp only [toJson, accepts_mapOf_ofMap, Edge.accepts_toJson, implies_true]

theorem Stance.accepts_toJson {kind : StanceKind} {s : Stance} :
    Accepts follow (Intermediate.stance kind.word) (s.toJson kind) ↔
      Identifier.Proper s.boundary ∧ Identifier.Proper s.component ∧
        Identifier.Proper s.threat := by
  refine accepts_closedRecord.trans ?_
  cases kind <;>
    simp [StanceKind.word, List.lookup_cons, accepts_identifier, accepts_text, accepts_ofStrings,
      Source.accepts_toJson]

theorem Review.accepts_toJson {r : Review} :
    Accepts follow Intermediate.review r.toJson ↔
      Identifier.Proper r.boundary ∧ Identifier.Proper r.component := by
  refine accepts_closedRecord.trans ?_
  simp [List.lookup_cons, accepts_identifier, accepts_text, accepts_ofStrings, Source.accepts_toJson]

namespace Element

def Proper (e : Element) : Prop :=
  Identifier.Proper e.boundary ∧ Identifier.Proper e.component ∧
    ∀ threat ∈ e.threat?, Identifier.Proper threat

end Element

namespace Elements

theorem accepts_mapToJson {α : Type} {each : Schema} {write : α → Json} {m : ElementMap α} :
    Accepts follow (mapOf (listOf each)) (mapToJson write m) ↔
      ∀ group ∈ m.entries, ∀ x ∈ group.2, Accepts follow each (write x) := by
  simp only [mapToJson, accepts_mapOf_ofMap, accepts_listOf, List.forall_mem_map]

theorem accepts_toJson {es : Elements} :
    Accepts follow Intermediate.project es.toJson ↔ ∀ e ∈ es.toList, e.Proper := by
  have sections : Accepts follow Intermediate.project es.toJson ↔
      (∀ kind, Accepts follow (mapOf (listOf (Intermediate.stance kind.word)))
        (mapToJson (Stance.toJson kind) (es.stances kind))) ∧
      Accepts follow (mapOf (listOf Intermediate.review)) (mapToJson Review.toJson es.reviews) := by
    have everyKind (P : StanceKind → Prop) : (∀ kind, P kind) ↔
        P .mitigation ∧ P .exposure ∧ P .transfer ∧ P .acceptance := by
      constructor
      · intro h
        exact ⟨h _, h _, h _, h _⟩
      · intro h kind
        cases kind with
        | mitigation => exact h.1
        | exposure => exact h.2.1
        | transfer => exact h.2.2.1
        | acceptance => exact h.2.2.2
    rw [Intermediate.project, accepts_rules, everyKind]
    simp [keywordProblems, namedProblems_eq_nil, toJson, List.lookup_cons, Kind.admits, otherFields,
      StanceKind.word, stances, and_assoc]
  simp only [sections, accepts_mapToJson, Stance.accepts_toJson, Review.accepts_toJson,
    forall_mem_toList, Element.Proper, Element.boundary, Element.component, Element.threat?,
    Option.mem_def, Option.some.injEq, forall_eq', reduceCtorEq, false_imp_iff, implies_true,
    and_true]

end Elements

theorem Specification.accepts_toJson {s : Specification} :
    Accepts follow Intermediate.specification s.toJson ↔ s.name = "ThreatSpec" := by
  have name : Accepts follow (.rules [.kind [.string], .values [.string "ThreatSpec"]])
      (.string s.name) ↔ s.name = "ThreatSpec" := by
    rw [accepts_rules]
    simp [keywordProblems, Kind.admits, Json.same]
  refine accepts_closedRecord.trans ?_
  simp [List.lookup_cons, accepts_text, name]

theorem Timestamps.accepts_toJson {t : Timestamps} :
    Accepts follow Intermediate.times t.toJson ↔ 0 ≤ t.created ∧ 0 ≤ t.updated := by
  refine accepts_closedRecord.trans ?_
  simp [List.lookup_cons, accepts_count]

namespace Document

theorem accepts_toJson {d : Document} :
    Accepts follow Intermediate.document d.toJson ↔
      d.specification.name = "ThreatSpec" ∧ (0 ≤ d.times.created ∧ 0 ≤ d.times.updated) ∧
        ∀ project ∈ d.projects.entries, ∀ e ∈ project.2.toList, e.Proper := by
  refine accepts_closedRecord.trans ?_
  simp [List.lookup_cons, Specification.accepts_toJson, Timestamps.accepts_toJson, accepts_mapOf_ofMap,
    Entry.accepts_toJson, Dataflow.accepts_toJson, Elements.accepts_toJson]

/-- The schema asks no less of a document than its own name, times that are not negative, and
elements that are given by identifiers; and it asks no more. -/
theorem problems_toJson_eq_nil (d : Document) :
    (Validator.intermediate.outcome 0 d.toJson).problems = [] ↔
      d.specification.name = "ThreatSpec" ∧ (0 ≤ d.times.created ∧ 0 ≤ d.times.updated) ∧
        ∀ project es, d.projects.get? project = some es → ∀ e ∈ es.toList,
          Identifier.Proper e.boundary ∧ Identifier.Proper e.component ∧
            ∀ threat, e.threat? = some threat → Identifier.Proper threat := by
  rw [Validator.problems_intermediate_eq_nil, accepts_toJson]
  simp only [SortedMap.get?_eq_some, Prod.forall]
  rfl

end Document

end ThreatModel
