import ThreatModel.Document.References
import ThreatModel.Proofs.Dataflow
import ThreatModel.Proofs.Element

namespace ThreatModel

open SortedMap

namespace Document

def Records (d : Document) (project : String) (e : Element) : Prop :=
  ∃ es, d.projects.get? project = some es ∧ e ∈ es.toList

theorem records_stance {d : Document} {project : String} {es : Elements} (kind : StanceKind)
    (held : d.projects.get? project = some es) {s : Stance}
    (member : s ∈ (es.stances kind).values.flatten) : d.Records project (.stance kind s) :=
  ⟨es, held, Elements.mem_toList_stance.2 member⟩

theorem records_merge {d e : Document} {project : String} {x : Element} :
    (d.merge e).Records project x ↔ d.Records project x ∨ e.Records project x := by
  simp only [Records, merge, get?_mergeWith]
  cases d.projects.get? project <;> cases e.projects.get? project <;>
    simp [Elements.mem_toList_merge]

theorem mem_connections_merge {d e : Document} {c : Connection}
    (member : c ∈ (d.merge e).dataflow.connections) :
    c ∈ d.dataflow.connections ∨ c ∈ e.dataflow.connections := by
  simp only [Dataflow.mem_connections, merge, Dataflow.edge?_merge] at member ⊢
  rcases Option.or_eq_some_iff.1 member with first | ⟨_, second⟩
  · exact .inl first
  · exact .inr second

structure DeclaredIn (d m : Document) : Prop where
  boundary : ∀ id, d.boundaries.contains id = true → m.boundaries.contains id = true
  component : ∀ b c, (d.component? b c).isSome = true → (m.component? b c).isSome = true
  threat : ∀ id, d.threats.contains id = true → m.threats.contains id = true

theorem contains_union {m n : SortedMap String Entry} {id : String} :
    (m.union n).contains id = true ↔ m.contains id = true ∨ n.contains id = true := by
  simp [contains, get?_union]

theorem component?_merge (d e : Document) (b c : String) :
    (d.merge e).component? b c = (d.component? b c).or (e.component? b c) := by
  simp only [component?, merge, get?_mergeWith, Option.bind_eq_bind]
  cases d.components.get? b <;> cases e.components.get? b <;> simp [get?_union]

theorem declaredIn_merge_left (d e : Document) : d.DeclaredIn (d.merge e) where
  boundary _ known := contains_union.2 (.inl known)
  component b c known := by simp [component?_merge, known]
  threat _ known := contains_union.2 (.inl known)

theorem declaredIn_merge_right (d e : Document) : e.DeclaredIn (d.merge e) where
  boundary _ known := contains_union.2 (.inr known)
  component b c known := by simp [component?_merge, known]
  threat _ known := contains_union.2 (.inr known)

section Declared

variable {d m : Document} (declared : d.DeclaredIn m)

include declared

theorem placeIssues_subset (context : String) (place : Place) (location : String) :
    m.placeIssues context place location ⊆ d.placeIssues context place location := by
  have home := declared.boundary place.boundary
  have spot := declared.component place.boundary place.component
  unfold placeIssues
  intro i member
  rcases List.mem_append.1 member with boundary | component
  · refine List.mem_append_left _ ?_
    split at boundary
    · cases boundary
    · rwa [if_neg fun known => absurd (home known) ‹_›]
  · refine List.mem_append_right _ ?_
    split at component
    · cases component
    · rwa [if_neg fun known => absurd (spot known) ‹_›]

theorem elementThreatIssues_subset (project : String) (e : Element) :
    m.elementThreatIssues project e ⊆ d.elementThreatIssues project e := by
  unfold elementThreatIssues
  cases e.threat? with
  | none => exact List.Subset.refl _
  | some threat =>
    have known := declared.threat threat
    dsimp only
    intro i member
    split at member
    · cases member
    · rwa [if_neg fun here => absurd (known here) ‹_›]

theorem connectionIssues_subset (c : Connection) : m.connectionIssues c ⊆ d.connectionIssues c :=
  List.append_subset.2
    ⟨List.subset_append_of_subset_left _ (placeIssues_subset declared _ _ _),
      List.subset_append_of_subset_right _ (placeIssues_subset declared _ _ _)⟩

end Declared

theorem mem_issuesOfElements {d : Document} {check : String → Element → List ReferenceIssue}
    {i : ReferenceIssue} :
    i ∈ d.issuesOfElements check ↔ ∃ project e, d.Records project e ∧ i ∈ check project e := by
  simp only [issuesOfElements, Records, List.mem_flatMap, Prod.exists, get?_eq_some]
  constructor
  · intro h
    obtain ⟨project, es, held, e, member, issue⟩ := h
    exact ⟨project, e, ⟨es, held, member⟩, issue⟩
  · intro h
    obtain ⟨project, e, ⟨es, held, member⟩, issue⟩ := h
    exact ⟨project, es, held, e, member, issue⟩

theorem mem_referenceIssues {d : Document} {i : ReferenceIssue} :
    i ∈ d.referenceIssues ↔
      (∃ project e, d.Records project e ∧
        (i ∈ d.elementPlaceIssues project e ∨ i ∈ d.elementThreatIssues project e)) ∨
      ∃ c ∈ d.dataflow.connections, i ∈ d.connectionIssues c := by
  simp only [referenceIssues, List.mem_append, mem_issuesOfElements, List.mem_flatMap, and_or_left,
    exists_or]
  exact or_right_comm

section Clean

variable {d : Document}

def Declares (d : Document) (p : Place) : Prop :=
  (∃ b, d.boundaries.get? p.boundary = some b) ∧
    ∃ c, d.component? p.boundary p.component = some c

theorem placeIssues_eq_nil {context location : String} {p : Place} :
    d.placeIssues context p location = [] ↔ d.Declares p := by
  simp only [placeIssues, Declares, List.append_eq_nil_iff, ite_eq_left_iff, List.cons_ne_nil,
    imp_false, Classical.not_not, Option.isSome_iff_exists, contains_iff]

theorem elementThreatIssues_eq_nil {project : String} {e : Element} :
    d.elementThreatIssues project e = [] ↔
      ∀ threat, e.threat? = some threat → d.threats.contains threat = true := by
  unfold elementThreatIssues
  cases e.threat? <;> simp

theorem issuesOfElements_eq_nil {check : String → Element → List ReferenceIssue} :
    d.issuesOfElements check = [] ↔ ∀ project e, d.Records project e → check project e = [] := by
  simp only [List.eq_nil_iff_forall_not_mem, mem_issuesOfElements, not_exists, not_and]
  exact ⟨fun h project e recorded i => h i project e recorded,
    fun h i project e recorded => h project e recorded i⟩

theorem referenceIssues_eq_nil :
    d.referenceIssues = [] ↔
      (∀ project e, d.Records project e → d.Declares ⟨e.boundary, e.component⟩) ∧
      (∀ c ∈ d.dataflow.connections, d.Declares c.origin ∧ d.Declares c.target) ∧
      ∀ project e, d.Records project e →
        ∀ threat, e.threat? = some threat → d.threats.contains threat = true := by
  simp only [referenceIssues, List.append_eq_nil_iff, issuesOfElements_eq_nil, elementPlaceIssues,
    List.flatMap_eq_nil_iff, connectionIssues, placeIssues_eq_nil, elementThreatIssues_eq_nil,
    and_assoc]

end Clean

theorem mem_referenceIssues_of_part {d m : Document} (declared : d.DeclaredIn m) {i : ReferenceIssue}
    (about : (∃ project e, d.Records project e ∧
        (i ∈ m.elementPlaceIssues project e ∨ i ∈ m.elementThreatIssues project e)) ∨
      ∃ c ∈ d.dataflow.connections, i ∈ m.connectionIssues c) :
    i ∈ d.referenceIssues := by
  rw [mem_referenceIssues]
  rcases about with ⟨project, e, recorded, issue⟩ | ⟨c, member, issue⟩
  · refine .inl ⟨project, e, recorded, issue.imp ?_ ?_⟩
    · exact fun place => placeIssues_subset declared _ _ _ place
    · exact fun threat => elementThreatIssues_subset declared _ _ threat
  · exact .inr ⟨c, member, connectionIssues_subset declared c issue⟩

/-- A reference that is missing in a merged document is missing in one of the parts, so parts without
issues merge into a document without issues. -/
theorem referenceIssues_merge (d e : Document) :
    (∀ i ∈ (d.merge e).referenceIssues, i ∈ d.referenceIssues ∨ i ∈ e.referenceIssues) ∧
      (d.referenceIssues = [] → e.referenceIssues = [] → (d.merge e).referenceIssues = []) := by
  have part : ∀ i ∈ (d.merge e).referenceIssues, i ∈ d.referenceIssues ∨ i ∈ e.referenceIssues := by
    intro i member
    have first := mem_referenceIssues_of_part (declaredIn_merge_left d e) (i := i)
    have second := mem_referenceIssues_of_part (declaredIn_merge_right d e) (i := i)
    rcases mem_referenceIssues.1 member with ⟨project, x, recorded, issue⟩ | ⟨c, connected, issue⟩
    · rcases records_merge.1 recorded with here | there
      · exact .inl (first (.inl ⟨project, x, here, issue⟩))
      · exact .inr (second (.inl ⟨project, x, there, issue⟩))
    · rcases mem_connections_merge connected with here | there
      · exact .inl (first (.inr ⟨c, here, issue⟩))
      · exact .inr (second (.inr ⟨c, there, issue⟩))
  refine ⟨part, fun none none' => List.eq_nil_iff_forall_not_mem.2 fun i member => ?_⟩
  rcases part i member with here | there
  · rw [none] at here
    cases here
  · rw [none'] at there
    cases there

def declaredShop : Document where
  boundaries := .insert ∅ "@web" { name := "Web" }
  components := .insert ∅ "@web" (.insert ∅ "@app" { name := "App" })
  threats := .insert ∅ "@xss" { name := "XSS" }
  projects := .insert ∅ "shop" {
    exposures := .insert ∅ "@forms" [⟨"@web", "@app", "@xss", "forms", [], { line := 1 }⟩] }

def connectedShop : Document where
  dataflow := ({} : Dataflow).add
    ⟨⟨"@web", "@app"⟩, ⟨"@web", "@db"⟩, { direction := .oneWay, source := { line := 2 } }⟩

theorem referenceIssues_merge_shops :
    (declaredShop.merge declaredShop).referenceIssues = [] ∧
      (declaredShop.merge connectedShop).referenceIssues =
        [⟨"dfd", .component, "@web:@db", "@2"⟩] ∧
      ⟨"dfd", .component, "@web:@db", "@2"⟩ ∈ connectedShop.referenceIssues := by
  have clean : declaredShop.referenceIssues = [] := by decide +kernel
  have left : (declaredShop.merge connectedShop).referenceIssues =
      [⟨"dfd", .component, "@web:@db", "@2"⟩] := by decide +kernel
  have found := (referenceIssues_merge declaredShop connectedShop).1 _
    (left ▸ List.mem_singleton_self _)
  rw [clean] at found
  exact ⟨(referenceIssues_merge declaredShop declaredShop).2 clean clean, left,
    found.resolve_left List.not_mem_nil⟩

end Document

end ThreatModel
