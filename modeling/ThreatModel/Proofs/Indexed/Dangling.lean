import Mathlib.Data.List.Nodup
import ThreatModel.Indexed.Integrity
import ThreatModel.Proofs.SortedMap

namespace ThreatModel

open SortedMap

namespace Reference

def field : Reference → String
  | boundary field _ => field
  | component field _ => field
  | threat _ => "threat"

end Reference

theorem ExposesEntry.nodup_fields (e : ExposesEntry) : (e.references.map Reference.field).Nodup := by
  simp [references, Reference.field]

theorem SendsEntry.nodup_fields (e : SendsEntry) : (e.references.map Reference.field).Nodup := by
  simp [references, Reference.field]

theorem MitigatesEntry.nodup_fields (e : MitigatesEntry) :
    (e.references.map Reference.field).Nodup := by
  simp [references, Reference.field]

namespace IntegrityIssue

def spot (i : IntegrityIssue) : String × ModelSection × Nat × String :=
  (i.project, i.part, i.index, i.reference.field)

theorem spot_ne_of_part {i j : IntegrityIssue} (apart : i.part ≠ j.part) : i.spot ≠ j.spot :=
  fun same => apart (congrArg (·.2.1) same)

/-- The issues are those with a property, one for each attribute. -/
def AreExactly (issues : List IntegrityIssue) (P : IntegrityIssue → Prop) : Prop :=
  (issues.map spot).Nodup ∧ ∀ i, i ∈ issues ↔ P i

end IntegrityIssue

namespace ProjectModel

/-- The entry at an index of a section has an attribute that holds the reference. -/
inductive Refers (p : ProjectModel) : ModelSection → Nat → Reference → Prop where
  | exposedBoundary {i : Nat} {e : ExposesEntry} (held : p.exposes.get? i = some e) :
      Refers p .exposes i (.boundary "boundary" e.boundary)
  | exposedComponent {i : Nat} {e : ExposesEntry} (held : p.exposes.get? i = some e) :
      Refers p .exposes i (.component "component" e.component)
  | exposedThreat {i : Nat} {e : ExposesEntry} (held : p.exposes.get? i = some e) :
      Refers p .exposes i (.threat e.threat)
  | sourceBoundary {i : Nat} {e : SendsEntry} (held : p.sends.get? i = some e) :
      Refers p .sends i (.boundary "srcboundary" e.srcBoundary)
  | sourceComponent {i : Nat} {e : SendsEntry} (held : p.sends.get? i = some e) :
      Refers p .sends i (.component "srccomponent" e.srcComponent)
  | targetBoundary {i : Nat} {e : SendsEntry} (held : p.sends.get? i = some e) :
      Refers p .sends i (.boundary "dstboundary" e.dstBoundary)
  | targetComponent {i : Nat} {e : SendsEntry} (held : p.sends.get? i = some e) :
      Refers p .sends i (.component "dstcomponent" e.dstComponent)
  | mitigatedBoundary {i : Nat} {e : MitigatesEntry} (held : p.mitigates.get? i = some e) :
      Refers p .mitigates i (.boundary "boundary" e.boundary)
  | mitigatedComponent {i : Nat} {e : MitigatesEntry} (held : p.mitigates.get? i = some e) :
      Refers p .mitigates i (.component "component" e.component)
  | mitigatedThreat {i : Nat} {e : MitigatesEntry} (held : p.mitigates.get? i = some e) :
      Refers p .mitigates i (.threat e.threat)

theorem refers_exposes {p : ProjectModel} {i : Nat} {ref : Reference} :
    p.Refers .exposes i ref ↔ ∃ e, p.exposes.get? i = some e ∧ ref ∈ e.references := by
  constructor
  · intro refers
    cases refers with
    | exposedBoundary held | exposedComponent held | exposedThreat held =>
      exact ⟨_, held, by simp [ExposesEntry.references]⟩
  · intro h
    obtain ⟨e, held, member⟩ := h
    simp only [ExposesEntry.references, List.mem_cons, List.not_mem_nil, or_false] at member
    rcases member with rfl | rfl | rfl
    · exact .exposedBoundary held
    · exact .exposedComponent held
    · exact .exposedThreat held

theorem refers_sends {p : ProjectModel} {i : Nat} {ref : Reference} :
    p.Refers .sends i ref ↔ ∃ e, p.sends.get? i = some e ∧ ref ∈ e.references := by
  constructor
  · intro refers
    cases refers with
    | sourceBoundary held | sourceComponent held | targetBoundary held | targetComponent held =>
      exact ⟨_, held, by simp [SendsEntry.references]⟩
  · intro h
    obtain ⟨e, held, member⟩ := h
    simp only [SendsEntry.references, List.mem_cons, List.not_mem_nil, or_false] at member
    rcases member with rfl | rfl | rfl | rfl
    · exact .sourceBoundary held
    · exact .sourceComponent held
    · exact .targetBoundary held
    · exact .targetComponent held

theorem refers_mitigates {p : ProjectModel} {i : Nat} {ref : Reference} :
    p.Refers .mitigates i ref ↔ ∃ e, p.mitigates.get? i = some e ∧ ref ∈ e.references := by
  constructor
  · intro refers
    cases refers with
    | mitigatedBoundary held | mitigatedComponent held | mitigatedThreat held =>
      exact ⟨_, held, by simp [MitigatesEntry.references]⟩
  · intro h
    obtain ⟨e, held, member⟩ := h
    simp only [MitigatesEntry.references, List.mem_cons, List.not_mem_nil, or_false] at member
    rcases member with rfl | rfl | rfl
    · exact .mitigatedBoundary held
    · exact .mitigatedComponent held
    · exact .mitigatedThreat held

theorem eq_of_held {ν : Type} {references : ν → List Reference} {held : Option ν}
    (distinct : ∀ e, ((references e).map Reference.field).Nodup) {r s : Reference}
    (first : ∃ e, held = some e ∧ r ∈ references e) (second : ∃ e, held = some e ∧ s ∈ references e)
    (same : r.field = s.field) : r = s := by
  obtain ⟨e, rfl, member⟩ := first
  obtain ⟨_, held, member'⟩ := second
  cases held
  exact List.inj_on_of_nodup_map (distinct e) member member' same

theorem Refers.unique {p : ProjectModel} {part : ModelSection} {i : Nat} {r s : Reference}
    (first : p.Refers part i r) (second : p.Refers part i s) (same : r.field = s.field) : r = s := by
  cases part with
  | exposes =>
    exact eq_of_held ExposesEntry.nodup_fields (refers_exposes.1 first) (refers_exposes.1 second) same
  | sends =>
    exact eq_of_held SendsEntry.nodup_fields (refers_sends.1 first) (refers_sends.1 second) same
  | mitigates =>
    exact eq_of_held MitigatesEntry.nodup_fields (refers_mitigates.1 first)
      (refers_mitigates.1 second) same

end ProjectModel

namespace IndexedModel

def Refers (m : IndexedModel) (i : IntegrityIssue) : Prop :=
  ∃ p, m.models.get? i.project = some p ∧ p.Refers i.part i.index i.reference

/-- What the reference points to is there: a number within the same project, and a threat for all. -/
def Knows (m : IndexedModel) (project : String) : Reference → Prop
  | .boundary _ n => ∃ named, m.boundaries.get? project = some named ∧ named.contains n = true
  | .component _ n => ∃ named, m.components.get? project = some named ∧ named.contains n = true
  | .threat id => m.threats.contains id = true

theorem resolves_iff {m : IndexedModel} {project : String} {ref : Reference} :
    m.resolves project ref = true ↔ m.Knows project ref := by
  cases ref with
  | boundary field n =>
    simp only [resolves, boundary?, Knows, contains, Option.bind_eq_bind]
    cases m.boundaries.get? project <;> simp
  | component field n =>
    simp only [resolves, component?, Knows, contains, Option.bind_eq_bind]
    cases m.components.get? project <;> simp
  | threat id => rfl

section Parts

variable {m : IndexedModel} {project : String} {part : ModelSection}

theorem mem_entryIssues {index : Nat} {refs : List Reference} {i : IntegrityIssue} :
    i ∈ m.entryIssues project part index refs ↔
      (i.project = project ∧ i.part = part ∧ i.index = index) ∧ i.reference ∈ refs ∧
        ¬ m.Knows project i.reference := by
  obtain ⟨q, s, n, ref⟩ := i
  simp only [entryIssues, List.mem_map, List.mem_filter, Bool.not_eq_true', IntegrityIssue.mk.injEq,
    ← resolves_iff, Bool.not_eq_true]
  constructor
  · rintro ⟨_, found, rfl, rfl, rfl, rfl⟩
    exact ⟨⟨rfl, rfl, rfl⟩, found⟩
  · rintro ⟨⟨rfl, rfl, rfl⟩, found⟩
    exact ⟨ref, found, rfl, rfl, rfl, rfl⟩

theorem nodup_entryIssues {index : Nat} {refs : List Reference}
    (distinct : (refs.map Reference.field).Nodup) :
    ((m.entryIssues project part index refs).map IntegrityIssue.spot).Nodup := by
  simp only [List.Nodup, List.pairwise_map, entryIssues] at distinct ⊢
  refine (distinct.filter _).imp fun apart same => apart ?_
  simp only [IntegrityIssue.spot, Prod.mk.injEq] at same
  exact same.2.2.2

variable {ν : Type} {references : ν → List Reference} {entries : SortedMap Nat ν}

def partIssues (m : IndexedModel) (project : String) (part : ModelSection)
    (references : ν → List Reference) (entries : SortedMap Nat ν) : List IntegrityIssue :=
  entries.entries.flatMap fun e => m.entryIssues project part e.1 (references e.2)

theorem mem_partIssues {i : IntegrityIssue} :
    i ∈ m.partIssues project part references entries ↔
      (i.project = project ∧ i.part = part) ∧
        (∃ e, entries.get? i.index = some e ∧ i.reference ∈ references e) ∧
        ¬ m.Knows project i.reference := by
  simp only [partIssues, List.mem_flatMap, mem_entryIssues, Prod.exists, get?_eq_some]
  constructor
  · rintro ⟨_, e, held, ⟨sameProject, samePart, rfl⟩, member, unknown⟩
    exact ⟨⟨sameProject, samePart⟩, ⟨e, held, member⟩, unknown⟩
  · rintro ⟨⟨sameProject, samePart⟩, ⟨e, held, member⟩, unknown⟩
    exact ⟨i.index, e, held, ⟨sameProject, samePart, rfl⟩, member, unknown⟩

theorem part_of_mem {i : IntegrityIssue}
    (member : i ∈ m.partIssues project part references entries) : i.part = part :=
  (mem_partIssues.1 member).1.2

theorem nodup_partIssues (distinct : ∀ e, ((references e).map Reference.field).Nodup) :
    ((m.partIssues project part references entries).map IntegrityIssue.spot).Nodup := by
  rw [List.Nodup, List.pairwise_map, partIssues, List.pairwise_flatMap]
  constructor
  · intro e _
    exact List.pairwise_map.1 (nodup_entryIssues (distinct e.2))
  · refine entries.sorted.imp fun before i inFirst j inSecond same => ?_
    obtain ⟨⟨_, _, first⟩, _⟩ := mem_entryIssues.1 inFirst
    obtain ⟨⟨_, _, second⟩, _⟩ := mem_entryIssues.1 inSecond
    simp only [IntegrityIssue.spot, Prod.mk.injEq] at same
    omega

end Parts

section Project

variable {m : IndexedModel} {project : String} {p : ProjectModel}

theorem projectIssues_eq :
    m.projectIssues project p =
      m.partIssues project .exposes ExposesEntry.references p.exposes ++
        m.partIssues project .sends SendsEntry.references p.sends ++
        m.partIssues project .mitigates MitigatesEntry.references p.mitigates := rfl

theorem mem_projectIssues {i : IntegrityIssue} :
    i ∈ m.projectIssues project p ↔
      i.project = project ∧ p.Refers i.part i.index i.reference ∧ ¬ m.Knows project i.reference := by
  obtain ⟨q, part, index, ref⟩ := i
  simp only [projectIssues_eq, List.mem_append, mem_partIssues]
  cases part with
  | exposes => simp [ProjectModel.refers_exposes]
  | sends => simp [ProjectModel.refers_sends]
  | mitigates => simp [ProjectModel.refers_mitigates]

theorem nodup_projectIssues : ((m.projectIssues project p).map IntegrityIssue.spot).Nodup := by
  rw [projectIssues_eq, List.map_append, List.map_append, List.nodup_append, List.nodup_append]
  refine ⟨⟨nodup_partIssues ExposesEntry.nodup_fields, nodup_partIssues SendsEntry.nodup_fields, ?_⟩,
    nodup_partIssues MitigatesEntry.nodup_fields, ?_⟩
  · intro a first b second
    obtain ⟨i, inFirst, rfl⟩ := List.mem_map.1 first
    obtain ⟨j, inSecond, rfl⟩ := List.mem_map.1 second
    apply IntegrityIssue.spot_ne_of_part
    rw [part_of_mem inFirst, part_of_mem inSecond]
    decide
  · intro a first b second
    obtain ⟨j, inSecond, rfl⟩ := List.mem_map.1 second
    rw [← List.map_append] at first
    obtain ⟨i, inFirst, rfl⟩ := List.mem_map.1 first
    apply IntegrityIssue.spot_ne_of_part
    rw [part_of_mem inSecond]
    rcases List.mem_append.1 inFirst with inFirst | inFirst <;>
      · rw [part_of_mem inFirst]
        decide

end Project

theorem mem_issues {m : IndexedModel} {i : IntegrityIssue} :
    i ∈ m.issues ↔ m.Refers i ∧ ¬ m.Knows i.project i.reference := by
  simp only [issues, List.mem_flatMap, mem_projectIssues, Prod.exists, Refers, get?_eq_some]
  constructor
  · rintro ⟨_, p, held, rfl, refers, unknown⟩
    exact ⟨⟨p, held, refers⟩, unknown⟩
  · rintro ⟨⟨p, held, refers⟩, unknown⟩
    exact ⟨i.project, p, held, rfl, refers, unknown⟩

theorem nodup_issues (m : IndexedModel) : (m.issues.map IntegrityIssue.spot).Nodup := by
  rw [issues, List.Nodup, List.pairwise_map, List.pairwise_flatMap]
  constructor
  · intro e _
    exact List.pairwise_map.1 nodup_projectIssues
  · refine m.models.sorted.imp fun before i inFirst j inSecond same => ?_
    have first := (mem_projectIssues.1 inFirst).1
    have second := (mem_projectIssues.1 inSecond).1
    simp only [IntegrityIssue.spot, Prod.mk.injEq] at same
    rw [← first, ← second, same.1] at before
    exact OrderedKey.irrefl _ before

theorem isValid_iff {m : IndexedModel} :
    m.isValid = true ↔ ∀ i, m.Refers i → m.Knows i.project i.reference := by
  rw [isValid, List.isEmpty_iff, List.eq_nil_iff_forall_not_mem]
  simp only [mem_issues, not_and, Classical.not_not]

def eraseNumber (entries : SortedMap String (SortedMap Nat Named)) (project : String) (n : Nat) :
    SortedMap String (SortedMap Nat Named) :=
  entries.mapValues fun q named => if q = project then named.erase n else named

def eraseBoundary (m : IndexedModel) (project : String) (n : Nat) : IndexedModel :=
  { m with boundaries := eraseNumber m.boundaries project n }

def eraseComponent (m : IndexedModel) (project : String) (n : Nat) : IndexedModel :=
  { m with components := eraseNumber m.components project n }

theorem exists_get?_eraseNumber {entries : SortedMap String (SortedMap Nat Named)}
    {project q : String} {n k : Nat} :
    (∃ named, (eraseNumber entries project n).get? q = some named ∧ named.contains k = true) ↔
      (∃ named, entries.get? q = some named ∧ named.contains k = true) ∧
        ¬ (q = project ∧ k = n) := by
  simp only [eraseNumber, get?_mapValues]
  cases entries.get? q with
  | none => simp
  | some named =>
    by_cases here : q = project
    · by_cases same : k = n <;> simp [contains, get?_erase, here, same]
    · simp [here]

theorem knows_eraseBoundary {m : IndexedModel} {project q : String} {n : Nat} {ref : Reference} :
    (m.eraseBoundary project n).Knows q ref ↔
      m.Knows q ref ∧ ¬ (q = project ∧ ∃ field, ref = .boundary field n) := by
  cases ref with
  | boundary field k =>
    simp only [Knows, eraseBoundary, exists_get?_eraseNumber, Reference.boundary.injEq,
      exists_and_right, exists_eq', true_and]
  | component field k => simp [Knows, eraseBoundary]
  | threat id => simp [Knows, eraseBoundary]

theorem knows_eraseComponent {m : IndexedModel} {project q : String} {n : Nat} {ref : Reference} :
    (m.eraseComponent project n).Knows q ref ↔
      m.Knows q ref ∧ ¬ (q = project ∧ ∃ field, ref = .component field n) := by
  cases ref with
  | component field k =>
    simp only [Knows, eraseComponent, exists_get?_eraseNumber, Reference.component.injEq,
      exists_and_right, exists_eq', true_and]
  | boundary field k => simp [Knows, eraseComponent]
  | threat id => simp [Knows, eraseComponent]

theorem Refers.unique {m : IndexedModel} {i j : IntegrityIssue} (first : m.Refers i)
    (second : m.Refers j) (same : i.spot = j.spot) : i = j := by
  obtain ⟨project, part, index, ref⟩ := i
  obtain ⟨_, _, _, ref'⟩ := j
  simp only [IntegrityIssue.spot, Prod.mk.injEq] at same
  obtain ⟨rfl, rfl, rfl, field⟩ := same
  obtain ⟨p, held, refers⟩ := first
  obtain ⟨_, held', refers'⟩ := second
  obtain rfl := Option.some.inj (held.symm.trans held')
  exact congrArg _ (refers.unique refers' field)

theorem areExactly_of_gone {m n : IndexedModel} {Gone : String → Reference → Prop}
    (valid : m.isValid = true) (same : n.models = m.models)
    (left : ∀ project ref, n.Knows project ref ↔ m.Knows project ref ∧ ¬ Gone project ref) :
    IntegrityIssue.AreExactly n.issues fun i => m.Refers i ∧ Gone i.project i.reference := by
  refine ⟨n.nodup_issues, fun i => ?_⟩
  have refers : n.Refers i ↔ m.Refers i := by rw [Refers, Refers, same]
  rw [mem_issues, refers, left]
  refine and_congr_right fun used => ?_
  simp [isValid_iff.1 valid i used]

/-- The issues are the references to what is not there, one for each attribute, and a model is valid
if it has no such reference. Without one of its boundaries or components, the issues of a valid
model are the references of the same project to it. -/
theorem issues_exact (m : IndexedModel) :
    IntegrityIssue.AreExactly m.issues (fun i => m.Refers i ∧ ¬ m.Knows i.project i.reference) ∧
    (∀ i j, m.Refers i → m.Refers j → i.spot = j.spot → i = j) ∧
    (m.isValid = true ↔ ∀ i, m.Refers i → m.Knows i.project i.reference) ∧
    (m.isValid = true → ∀ project n,
      IntegrityIssue.AreExactly (m.eraseBoundary project n).issues (fun i =>
        m.Refers i ∧ i.project = project ∧ ∃ field, i.reference = .boundary field n) ∧
      IntegrityIssue.AreExactly (m.eraseComponent project n).issues (fun i =>
        m.Refers i ∧ i.project = project ∧ ∃ field, i.reference = .component field n)) := by
  refine ⟨⟨m.nodup_issues, fun _ => mem_issues⟩, fun _ _ => Refers.unique, isValid_iff, ?_⟩
  intro valid project n
  constructor
  · exact areExactly_of_gone (n := m.eraseBoundary project n) valid rfl
      fun _ _ => knows_eraseBoundary
  · exact areExactly_of_gone (n := m.eraseComponent project n) valid rfl
      fun _ _ => knows_eraseComponent

def shopModel : IndexedModel where
  boundaries := .ofList [("depot", .ofList [(0, ⟨"Yard"⟩)]), ("shop", .ofList [(0, ⟨"Web"⟩)])]
  components := .ofList [("depot", .ofList [(0, ⟨"Gate"⟩)]),
    ("shop", .ofList [(0, ⟨"App"⟩), (1, ⟨"Db"⟩)])]
  models := .ofList [
    ("depot", { mitigates := .ofList [(0, ⟨0, 0, "a lock", [], "@theft"⟩)] }),
    ("shop", { exposes := .ofList [(2, ⟨0, 1, "raw queries", [], "@sqli"⟩)]
               sends := .ofList [(0, ⟨0, 0, 0, 1, "query"⟩)] })]
  threats := .ofList [("@sqli", "SQL injection"), ("@theft", "Theft")]

theorem issues_shopModel_without_web :
    shopModel.isValid = true ∧
    IntegrityIssue.AreExactly (shopModel.eraseBoundary "shop" 0).issues (fun i =>
      shopModel.Refers i ∧ i.project = "shop" ∧ ∃ field, i.reference = .boundary field 0) ∧
    (shopModel.eraseBoundary "shop" 0).issues =
      [⟨"shop", .exposes, 2, .boundary "boundary" 0⟩,
        ⟨"shop", .sends, 0, .boundary "srcboundary" 0⟩,
        ⟨"shop", .sends, 0, .boundary "dstboundary" 0⟩] := by
  have valid : shopModel.isValid = true := by decide +kernel
  obtain ⟨_, _, _, erased⟩ := issues_exact shopModel
  exact ⟨valid, (erased valid "shop" 0).1, by decide +kernel⟩

end IndexedModel

end ThreatModel
