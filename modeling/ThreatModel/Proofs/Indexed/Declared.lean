import ThreatModel.Proofs.Document.References
import ThreatModel.Proofs.Indexed.Numbering

namespace ThreatModel.IndexedModel

/-- Names in the indexed model `m` of a project with the elements `es`: each number is the one of a
boundary or component in use, and has the name that the document `d` declares for it. -/
structure NamedAsDeclared (d : Document) (project : String) (es : Elements)
    (boundary : String → Nat) (component : Place → Nat) (m : IndexedModel) : Prop where
  boundary_order : NumbersByFirstUse ((usedPlaces d es).map (·.boundary)) boundary
  component_order : NumbersByFirstUse (usedPlaces d es) component
  boundaries : ∀ q i named, m.boundary? q i = some named ↔ q = project ∧
    ∃ p entry, Uses d es p ∧ boundary p.boundary = i ∧
      d.boundaries.get? p.boundary = some entry ∧ named.name = entry.name
  components : ∀ q i named, m.component? q i = some named ↔ q = project ∧
    ∃ p entry, Uses d es p ∧ component p = i ∧
      d.component? p.boundary p.component = some entry ∧ named.name = entry.name
  threats : m.threats = d.threats.mapValues fun _ t => t.name

section Clean

variable {d : Document} {project : String} {es : Elements}

theorem boundary?_ofElements_eq_some {q : String} {i : Nat} {named : Named} :
    (ofElements d project es).boundary? q i = some named ↔ q = project ∧
      ∃ p, Uses d es p ∧
        ((usedPlaces d es).map (·.boundary)).eraseDups.idxOf p.boundary = i ∧
        boundaryName d p.boundary = named := by
  by_cases here : q = project
  · subst here
    simp [boundary?_ofElements, getElem?_eraseDups_eq_some, mem_usedPlaces, and_assoc]
  · simp [ofElements, boundary?, SortedMap.get?_insert, here]

theorem component?_ofElements_eq_some {q : String} {i : Nat} {named : Named} :
    (ofElements d project es).component? q i = some named ↔ q = project ∧
      ∃ p, Uses d es p ∧ (usedPlaces d es).eraseDups.idxOf p = i ∧ componentName d p = named := by
  by_cases here : q = project
  · subst here
    simp [component?_ofElements, getElem?_eraseDups_eq_some, mem_usedPlaces, and_assoc]
  · simp [ofElements, component?, SortedMap.get?_insert, here]

theorem boundaryName_eq_iff {p : Place} (declared : d.Declares p) {named : Named} :
    boundaryName d p.boundary = named ↔
      ∃ entry, d.boundaries.get? p.boundary = some entry ∧ named.name = entry.name := by
  obtain ⟨⟨entry, held⟩, -⟩ := declared
  cases named
  simp [boundaryName, held, eq_comm]

theorem componentName_eq_iff {p : Place} (declared : d.Declares p) {named : Named} :
    componentName d p = named ↔
      ∃ entry, d.component? p.boundary p.component = some entry ∧ named.name = entry.name := by
  obtain ⟨-, entry, held⟩ := declared
  cases named
  simp [componentName, held, eq_comm]

variable (clean : d.referenceIssues = []) (held : d.projects.get? project = some es)

include clean held

theorem declares_of_uses {p : Place} (used : Uses d es p) : d.Declares p := by
  obtain ⟨elements, edges, -⟩ := Document.referenceIssues_eq_nil.1 clean
  rcases used with ⟨s, member, rfl⟩ | ⟨s, member, rfl⟩ | ⟨c, member, rfl | rfl⟩
  · exact elements project _ (Document.records_stance .exposure held member)
  · exact elements project _ (Document.records_stance .mitigation held member)
  · exact (edges c member).1
  · exact (edges c member).2

theorem threatNames_of_clean : threatNames d es = d.threats.mapValues fun _ t => t.name := by
  obtain ⟨-, -, threats⟩ := Document.referenceIssues_eq_nil.1 clean
  refine SortedMap.foldl_insertNew_of_contains fun s member => ?_
  have known : d.threats.contains s.threat = true := by
    rcases List.mem_append.1 member with exposed | mitigated
    · exact threats project _ (Document.records_stance .exposure held exposed) _ rfl
    · exact threats project _ (Document.records_stance .mitigation held mitigated) _ rfl
  obtain ⟨t, declared⟩ := SortedMap.contains_iff.1 known
  exact SortedMap.contains_iff.2 ⟨t.name, by simp [SortedMap.get?_mapValues, declared]⟩

/-- A project of a document without reference issues converts, and every name in its indexed model is
a declared one. -/
theorem ofDocument_declared :
    ∃ m boundary component, ofDocument d project = .ok m ∧
      NamedAsDeclared d project es boundary component m := by
  refine ⟨ofElements d project es, ((usedPlaces d es).map (·.boundary)).eraseDups.idxOf,
    (usedPlaces d es).eraseDups.idxOf, by simp only [ofDocument, held], ?_⟩
  constructor
  case boundary_order => exact numbersByFirstUse_idxOf _
  case component_order => exact numbersByFirstUse_idxOf _
  case boundaries =>
    intro q i named
    rw [boundary?_ofElements_eq_some]
    constructor
    · rintro ⟨here, p, used, number, name⟩
      have declared := declares_of_uses clean held used
      obtain ⟨entry, found, same⟩ := (boundaryName_eq_iff declared).1 name
      exact ⟨here, p, entry, used, number, found, same⟩
    · rintro ⟨here, p, entry, used, number, found, same⟩
      have declared := declares_of_uses clean held used
      exact ⟨here, p, used, number, (boundaryName_eq_iff declared).2 ⟨entry, found, same⟩⟩
  case components =>
    intro q i named
    rw [component?_ofElements_eq_some]
    constructor
    · rintro ⟨here, p, used, number, name⟩
      have declared := declares_of_uses clean held used
      obtain ⟨entry, found, same⟩ := (componentName_eq_iff declared).1 name
      exact ⟨here, p, entry, used, number, found, same⟩
    · rintro ⟨here, p, entry, used, number, found, same⟩
      have declared := declares_of_uses clean held used
      exact ⟨here, p, used, number, (componentName_eq_iff declared).2 ⟨entry, found, same⟩⟩
  case threats => exact threatNames_of_clean clean held

end Clean

def declaredLogs : Document where
  boundaries := .ofList [("@app", { name := "App" }), ("@host", { name := "Host" })]
  components := .ofList [("@app", .ofList [("@log", { name := "Debug log" })]),
    ("@host", .ofList [("@log", { name := "System log" })])]
  threats := .ofList [("@leak", { name := "Leak" }), ("@spoof", { name := "Spoofing" })]
  dataflow := (({} : Dataflow).add (.between ⟨"@app", "@log"⟩ ⟨"@host", "@log"⟩
    { direction := .bothWays, label := "lines", source := {} }))
  projects := (∅ : SortedMap String Elements).insert "main" sampleElements

theorem declaredLogs_named :
    declaredLogs.referenceIssues = [] ∧
    declaredLogs.projects.get? "main" = some sampleElements ∧
    ∃ m boundary component, ofDocument declaredLogs "main" = .ok m ∧
      NamedAsDeclared declaredLogs "main" sampleElements boundary component m := by
  have clean : declaredLogs.referenceIssues = [] := by decide +kernel
  have held : declaredLogs.projects.get? "main" = some sampleElements :=
    SortedMap.get?_insert_self _ _ _
  exact ⟨clean, held, ofDocument_declared clean held⟩

end ThreatModel.IndexedModel
