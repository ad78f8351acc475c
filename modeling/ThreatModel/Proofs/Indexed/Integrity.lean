import ThreatModel.Indexed.Integrity
import ThreatModel.Proofs.Indexed.Numbering

namespace ThreatModel.IndexedModel

theorem entryIssues_eq_nil {m : IndexedModel} {project : String} {part : ModelSection} {i : Nat}
    {refs : List Reference} :
    m.entryIssues project part i refs = [] ↔ ∀ ref ∈ refs, m.resolves project ref = true := by
  simp [entryIssues, List.filter_eq_nil_iff]

theorem flatMap_entries_ofPositions_eq_nil {ν β : Type} {vs : List ν} {f : Nat × ν → List β}
    (h : ∀ i, ∀ v ∈ vs, f (i, v) = []) : (SortedMap.ofPositions vs).entries.flatMap f = [] := by
  rw [List.flatMap_eq_nil_iff]
  intro entry member
  obtain ⟨i, v⟩ := entry
  exact h i v (List.mem_of_getElem? (SortedMap.mem_entries_ofPositions.1 member))

section Conversion

variable {d : Document} {project : String} {es : Elements}

theorem resolves_boundary {p : Place} (used : Uses d es p) (field : String) :
    (ofElements d project es).resolves project
      (.boundary field ((Numbering.ofPlaces (usedPlaces d es)).boundary p)) = true := by
  have member : p.boundary ∈ ((usedPlaces d es).map (·.boundary)).eraseDups :=
    List.mem_eraseDups.2 (List.mem_map_of_mem (mem_usedPlaces.2 used))
  simp only [resolves, boundary?_ofElements, Numbering.boundary, Numbering.ofPlaces,
    List.getElem?_idxOf member, Option.map_some, Option.isSome_some]

theorem resolves_component {p : Place} (used : Uses d es p) (field : String) :
    (ofElements d project es).resolves project
      (.component field ((Numbering.ofPlaces (usedPlaces d es)).component p)) = true := by
  have member : p ∈ (usedPlaces d es).eraseDups := List.mem_eraseDups.2 (mem_usedPlaces.2 used)
  simp only [resolves, component?_ofElements, Numbering.component, Numbering.ofPlaces,
    List.getElem?_idxOf member, Option.map_some, Option.isSome_some]

theorem resolves_threat {s : Stance}
    (used : s ∈ es.exposures.values.flatten ++ es.mitigations.values.flatten) :
    (ofElements d project es).resolves project (.threat s.threat) = true :=
  (SortedMap.contains_foldl_insertNew _ _ _ _ _).2 (.inr ⟨s, used, rfl⟩)

theorem stance_resolves {s : Stance}
    (member : s ∈ es.exposures.values.flatten ++ es.mitigations.values.flatten) :
    ∀ ref ∈ [Reference.boundary "boundary"
          ((Numbering.ofPlaces (usedPlaces d es)).boundary (stancePlace s)),
        .component "component"
          ((Numbering.ofPlaces (usedPlaces d es)).component (stancePlace s)),
        .threat s.threat],
      (ofElements d project es).resolves project ref = true := by
  have used : Uses d es (stancePlace s) := by
    rcases List.mem_append.1 member with exposed | mitigated
    · exact .inl ⟨s, exposed, rfl⟩
    · exact .inr (.inl ⟨s, mitigated, rfl⟩)
  intro ref listed
  simp only [List.mem_cons, List.not_mem_nil, or_false] at listed
  rcases listed with rfl | rfl | rfl
  · exact resolves_boundary used _
  · exact resolves_component used _
  · exact resolves_threat member

theorem flow_resolves {source target : Place} (from_used : Uses d es source)
    (to_used : Uses d es target) (message : String) :
    ∀ ref ∈ (flow (Numbering.ofPlaces (usedPlaces d es)) source target message).references,
      (ofElements d project es).resolves project ref = true := by
  intro ref listed
  simp only [SendsEntry.references, flow, List.mem_cons, List.not_mem_nil, or_false] at listed
  rcases listed with rfl | rfl | rfl | rfl
  · exact resolves_boundary from_used _
  · exact resolves_component from_used _
  · exact resolves_boundary to_used _
  · exact resolves_component to_used _

theorem sends_resolve {c : Connection} (member : c ∈ d.dataflow.connections) {e : SendsEntry}
    (sent : e ∈ flows (Numbering.ofPlaces (usedPlaces d es)) c) :
    ∀ ref ∈ e.references, (ofElements d project es).resolves project ref = true := by
  have from_used : Uses d es c.origin := .inr (.inr ⟨c, member, .inl rfl⟩)
  have to_used : Uses d es c.target := .inr (.inr ⟨c, member, .inr rfl⟩)
  rw [flows_eq] at sent
  rcases List.mem_cons.1 sent with rfl | back
  · exact flow_resolves from_used to_used _
  · split at back
    · rw [List.mem_singleton.1 back]
      exact flow_resolves to_used from_used _
    · cases back

theorem issues_ofElements : (ofElements d project es).issues = [] := by
  have only : (ofElements d project es).issues = (ofElements d project es).projectIssues project
      (projectModel d es (Numbering.ofPlaces (usedPlaces d es))) := List.append_nil _
  rw [only]
  simp only [projectIssues, projectModel, List.append_eq_nil_iff]
  refine ⟨⟨?_, ?_⟩, ?_⟩
  · apply flatMap_entries_ofPositions_eq_nil
    intro i e listed
    obtain ⟨s, member, rfl⟩ := List.mem_map.1 listed
    exact entryIssues_eq_nil.2 (stance_resolves (List.mem_append_left _ member))
  · apply flatMap_entries_ofPositions_eq_nil
    intro i e listed
    obtain ⟨c, member, sent⟩ := List.mem_flatMap.1 listed
    exact entryIssues_eq_nil.2 (sends_resolve member sent)
  · apply flatMap_entries_ofPositions_eq_nil
    intro i e listed
    obtain ⟨s, member, rfl⟩ := List.mem_map.1 listed
    exact entryIssues_eq_nil.2 (stance_resolves (List.mem_append_right _ member))

end Conversion

/-- A document converts exactly if it has the project, and what it converts to passes the integrity
check, whatever the document leaves undeclared. -/
theorem ofDocument_valid (d : Document) (project : String) :
    (ofDocument d project = .error (.unknownProject project) ↔
      d.projects.contains project = false) ∧
    ((∃ m, ofDocument d project = .ok m ∧ m.issues = []) ↔
      d.projects.contains project = true) := by
  unfold ofDocument SortedMap.contains
  cases d.projects.get? project with
  | none => simp
  | some es => simp [issues_ofElements]

end ThreatModel.IndexedModel
