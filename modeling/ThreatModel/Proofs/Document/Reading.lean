import ThreatModel.Document.Format
import ThreatModel.Proofs.Schema.Reading

namespace ThreatModel

open Json Schema

variable {follow : String → Json → List Problem}

theorem Source.covers : Covers follow Intermediate.source Source.fromJson? := by
  refine covers_record fun fs supplies => ?_
  refine isSome_bind (supplies.required? (by simp) (by simp) covers_text) fun file => ?_
  refine isSome_bind (supplies.required? (by simp) (by simp) covers_count) fun line => ?_
  refine isSome_bind (supplies.required? (by simp) (by simp) covers_text) fun function => ?_
  rfl

theorem covers_references : Covers follow Intermediate.references (asList? asString?) :=
  covers_listOf covers_text

theorem covers_identifier : Covers follow Intermediate.identifier asString? := covers_string _

theorem Entry.covers : Covers follow Intermediate.entry Entry.fromJson? := by
  refine covers_record fun fs supplies => ?_
  refine isSome_bind (supplies.required? (by simp) (by simp) covers_text) fun name => ?_
  refine isSome_bind (supplies.withDefault? (by simp) covers_text _) fun description => ?_
  refine isSome_bind (supplies.withDefault? (by simp) covers_references _) fun references => ?_
  refine isSome_bind (supplies.withDefault? (by simp) (covers_option covers_text) _) fun parent => ?_
  rfl

theorem Direction.covers :
    Covers follow (.rules [.values [.string "uni", .string "bi"]]) Direction.fromJson? := by
  intro v _ accepted
  have among := accepts_rules.1 accepted _ List.mem_cons_self
  cases v with
  | string s =>
    have word : s = "uni" ∨ s = "bi" := by simpa [keywordProblems, Json.same] using among
    rcases word with rfl | rfl <;> rfl
  | null | bool | number | array | object => simp [keywordProblems, Json.same] at among

theorem Edge.covers : Covers follow Intermediate.edge Edge.fromJson? := by
  refine covers_record fun fs supplies => ?_
  refine isSome_bind (supplies.required? (by simp) (by simp) Direction.covers) fun direction => ?_
  refine isSome_bind (supplies.withDefault? (by simp) (covers_option covers_text) _) fun label => ?_
  refine isSome_bind (supplies.required? (by simp) (by simp) Source.covers) fun source => ?_
  rfl

theorem Dataflow.covers :
    Covers follow (mapOf (mapOf (mapOf (mapOf Intermediate.edge)))) Dataflow.fromJson? := by
  intro v kept accepted
  have tree := covers_mapOf (covers_mapOf (covers_mapOf (covers_mapOf Edge.covers))) v kept accepted
  rwa [Dataflow.fromJson?, Option.isSome_map]

theorem Stance.covers (kind : StanceKind) :
    Covers follow (Intermediate.stance kind.word) (Stance.fromJson? kind) := by
  refine covers_record fun fs supplies => ?_
  refine isSome_bind (supplies.required? (by simp) (by simp) covers_identifier) fun boundary => ?_
  refine isSome_bind (supplies.required? (by simp) (by simp) covers_identifier) fun component => ?_
  refine isSome_bind (supplies.required? (by simp) (by simp) covers_identifier) fun threat => ?_
  refine isSome_bind (supplies.required? (by simp) (by simp) covers_text) fun text => ?_
  refine isSome_bind (supplies.withDefault? (by simp) covers_references _) fun refs => ?_
  refine isSome_bind (supplies.required? (by simp) (by simp) Source.covers) fun source => ?_
  rfl

theorem Review.covers : Covers follow Intermediate.review Review.fromJson? := by
  refine covers_record fun fs supplies => ?_
  refine isSome_bind (supplies.required? (by simp) (by simp) covers_identifier) fun boundary => ?_
  refine isSome_bind (supplies.required? (by simp) (by simp) covers_identifier) fun component => ?_
  refine isSome_bind (supplies.required? (by simp) (by simp) covers_text) fun text => ?_
  refine isSome_bind (supplies.withDefault? (by simp) covers_references _) fun refs => ?_
  refine isSome_bind (supplies.required? (by simp) (by simp) Source.covers) fun source => ?_
  rfl

theorem accepts_project {v : Json} :
    Accepts follow Intermediate.project v ↔ Accepts follow (closedRecord []
      [("mitigations", mapOf (listOf (Intermediate.stance "mitigation"))),
       ("exposures", mapOf (listOf (Intermediate.stance "exposure"))),
       ("transfers", mapOf (listOf (Intermediate.stance "transfer"))),
       ("acceptances", mapOf (listOf (Intermediate.stance "acceptance"))),
       ("reviews", mapOf (listOf Intermediate.review))]) v := by
  have nothing : keywordProblems follow (.required []) v = [] := by cases v <;> rfl
  simp [Intermediate.project, closedRecord, accepts_rules, nothing]

theorem Elements.covers : Covers follow Intermediate.project Elements.fromJson? := by
  have stances (kind : StanceKind) : Covers follow (mapOf (listOf (Intermediate.stance kind.word)))
      (asMap? (asList? (Stance.fromJson? kind))) := covers_mapOf (covers_listOf (Stance.covers kind))
  have reviews : Covers follow (mapOf (listOf Intermediate.review))
      (asMap? (asList? Review.fromJson?)) := covers_mapOf (covers_listOf Review.covers)
  intro v kept accepted
  refine covers_record (fun fs supplies => ?_) v kept (accepts_project.1 accepted)
  refine isSome_bind (supplies.withDefault? (by simp [StanceKind.word]) (stances .mitigation) _) ?_
  intro mitigations
  refine isSome_bind (supplies.withDefault? (by simp [StanceKind.word]) (stances .exposure) _) ?_
  intro exposures
  refine isSome_bind (supplies.withDefault? (by simp [StanceKind.word]) (stances .acceptance) _) ?_
  intro acceptances
  refine isSome_bind (supplies.withDefault? (by simp [StanceKind.word]) (stances .transfer) _) ?_
  intro transfers
  refine isSome_bind (supplies.withDefault? (by simp) reviews _) fun reviews => ?_
  rfl

theorem Specification.covers :
    Covers follow Intermediate.specification Specification.fromJson? := by
  have own : Covers follow (.rules [.kind [.string], .values [.string "ThreatSpec"]]) asString? :=
    covers_string _
  refine covers_record fun fs supplies => ?_
  refine isSome_bind (supplies.required? (by simp) (by simp) own) fun name => ?_
  refine isSome_bind (supplies.required? (by simp) (by simp) covers_text) fun version => ?_
  rfl

theorem isSome_asInt64? {i : Int} (positive : 0 ≤ i) :
    (asInt64? (Json.int i)).isSome = true ↔ i < bitValues 63 := by
  have shown : layer (Json.int i) = .integer i := rfl
  have fits : isSigned64 i = true ↔ i < bitValues 63 := by
    simp only [isSigned64, Bool.and_eq_true, decide_eq_true_eq]
    omega
  rw [← fits, asInt64?, shown]
  dsimp only
  cases isSigned64 i <;> simp

def Timestamps.Fit (v : Json) : Prop :=
  ∀ name ∈ ["created", "updated"], ∀ i, v.field? name = some (.int i) → i < bitValues 63

theorem Timestamps.isSome_fromJson? {v : Json} (kept : v.WellFormed)
    (accepted : Accepts follow Intermediate.times v) :
    (Timestamps.fromJson? v).isSome = true ↔ Timestamps.Fit v := by
  obtain ⟨fs, read, same, supplies⟩ := exists_supplies kept accepted ["created", "updated"]
  have time (name : String) (asked : name ∈ ["created", "updated"]) :
      ∃ i, v.field? name = some (.int i) ∧ ((fs.required? name asInt64?).isSome = true ↔
        i < bitValues 63) := by
    obtain ⟨t, held⟩ := Option.isSome_iff_exists.1 (supplies.given name asked)
    have counted : Accepts follow count t := by
      refine (supplies.accepted (name, count) ?_ t held).2
      simpa using asked
    obtain ⟨i, rfl, positive⟩ := exists_int counted
    refine ⟨i, (same name).symm.trans held, ?_⟩
    rw [Fields.required?, held]
    exact isSome_asInt64? positive
  obtain ⟨i, created, fits⟩ := time "created" (by simp)
  obtain ⟨j, updated, fits'⟩ := time "updated" (by simp)
  have both : Timestamps.Fit v ↔ i < bitValues 63 ∧ j < bitValues 63 := by
    simp [Timestamps.Fit, created, updated, Json.int]
  rw [both, ← fits, ← fits', Timestamps.fromJson?, read]
  simp only [Option.bind_eq_bind, Option.bind_some]
  cases fs.required? "created" asInt64? <;> cases fs.required? "updated" asInt64? <;> simp

namespace Document

/-- Whether a document is read depends on its times alone, as the schema covers all other fields. -/
theorem isSome_fromJson? {v : Json} (kept : v.WellFormed)
    (accepted : Accepts follow Intermediate.document v) :
    (fromJson? v).isSome = true ↔ ∀ times ∈ v.field? "document", Timestamps.Fit times := by
  obtain ⟨fs, read, same, supplies⟩ := exists_supplies kept accepted
    ["specification", "document", "boundaries", "components", "threats", "dfd", "projects"]
  obtain ⟨times, held⟩ := Option.isSome_iff_exists.1 (supplies.given "document" (by simp))
  obtain ⟨timesKept, timesAccepted⟩ :=
    supplies.accepted ("document", Intermediate.times) (by simp) times held
  have timed : (fs.withDefault? "document" Timestamps.fromJson? {}).isSome = true ↔
      ∀ times ∈ v.field? "document", Timestamps.Fit times := by
    rw [← same, Fields.withDefault?, held]
    simpa using Timestamps.isSome_fromJson? timesKept timesAccepted
  have entries : Covers follow (mapOf Intermediate.entry) (asMap? Entry.fromJson?) :=
    covers_mapOf Entry.covers
  have specified : (fs.withDefault? "specification" Specification.fromJson? {}).isSome = true :=
    supplies.withDefault? (by simp) Specification.covers _
  obtain ⟨specification, specified⟩ := Option.isSome_iff_exists.1 specified
  rw [← timed, fromJson?, read, Option.bind_eq_bind, Option.bind_some, specified,
    Option.bind_eq_bind, Option.bind_some]
  constructor
  · intro whole
    by_contra missing
    rw [Option.not_isSome_iff_eq_none.1 missing] at whole
    cases whole
  · intro timed
    refine isSome_bind timed fun times => ?_
    refine isSome_bind (supplies.withDefault? (by simp) entries _) fun boundaries => ?_
    refine isSome_bind (supplies.withDefault? (by simp) (covers_mapOf entries) _) fun components => ?_
    refine isSome_bind (supplies.withDefault? (by simp) entries _) fun threats => ?_
    refine isSome_bind (supplies.withDefault? (by simp) Dataflow.covers _) fun dataflow => ?_
    refine isSome_bind (supplies.withDefault? (by simp) (covers_mapOf Elements.covers) _) ?_
    exact fun projects => rfl

/-- A value without problems is read as a document exactly if its times fit into 64 bits with a
sign. All values of texts are among those in question. -/
theorem fromJson?_of_problems_eq_nil :
    (∀ v : Json, v.WellFormed → (Validator.intermediate.outcome 0 v).problems = [] →
      ((∃ d, fromJson? v = some d) ↔
        ∀ times ∈ v.field? "document", ∀ name ∈ ["created", "updated"], ∀ i,
          times.field? name = some (.int i) → i < bitValues 63)) ∧
    ∀ text v, Json.ofText? text = some v → v.WellFormed := by
  refine ⟨fun v kept clean => ?_, fun text v read => wellFormed_ofText? read⟩
  rw [← Option.isSome_iff_exists]
  exact isSome_fromJson? kept (Validator.problems_intermediate_eq_nil.1 clean)

def shopValue (created : Int) : Json :=
  .object [
    ("boundaries", .object [("@web", .object [("name", .string "Web"),
      ("parent", .string "@internet")])]),
    ("components", .object []),
    ("document", .object [("created", .int created), ("updated", .int created)]),
    ("projects", .object [("shop", .object [])]),
    ("specification", .object [("name", .string "ThreatSpec"), ("version", .string "0.1.0")]),
    ("threats", .object [])]

/-- The last time that can be read, and the first that cannot. -/
theorem fromJson?_shopValue :
    (∃ d, fromJson? (shopValue (bitValues 63 - 1)) = some d) ∧
      (Validator.intermediate.outcome 0 (shopValue (bitValues 63))).problems = [] ∧
      ¬ ∃ d, fromJson? (shopValue (bitValues 63)) = some d := by
  have kept {i : Int} (fits : Fits64 i) : (shopValue i).WellFormed := by
    simp [shopValue, wellFormed_object, WellFormed.string, wellFormed_int, fits]
  have clean : (Validator.intermediate.outcome 0 (shopValue (bitValues 63 - 1))).problems = [] := by
    decide +kernel
  have clean' : (Validator.intermediate.outcome 0 (shopValue (bitValues 63))).problems = [] := by
    decide +kernel
  obtain ⟨reads, _⟩ := fromJson?_of_problems_eq_nil
  refine ⟨(reads _ (kept (.inl (by decide))) clean).2 ?_, clean', fun read => ?_⟩
  · have below : (bitValues 63 : Int) - 1 < bitValues 63 := by omega
    simp [shopValue, Json.field?, List.lookup_cons, Json.int, below]
  · have fits := (reads _ (kept (.inr (by decide))) clean').1 read
    simp [shopValue, Json.field?, List.lookup_cons, Json.int] at fits

end Document

end ThreatModel
