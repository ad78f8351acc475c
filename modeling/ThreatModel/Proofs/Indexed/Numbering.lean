import Mathlib.Data.Finset.Card
import Mathlib.Data.Set.Function
import ThreatModel.Indexed.Numbering
import ThreatModel.Proofs.SortedMap

namespace ThreatModel

section FirstUse

variable {α : Type} [DecidableEq α]

/-- An item is numbered by how many different ones are used before it. -/
def NumbersByFirstUse (uses : List α) (number : α → Nat) : Prop :=
  ∀ before a after, uses = before ++ a :: after → a ∉ before → number a = before.toFinset.card

theorem nodup_eraseDups : ∀ xs : List α, xs.eraseDups.Nodup
  | [] => List.nodup_nil
  | a :: xs => by
    rw [List.eraseDups_cons, List.nodup_cons]
    exact ⟨by simp, nodup_eraseDups _⟩
termination_by xs => xs.length
decreasing_by exact Nat.lt_succ_of_le (List.length_filter_le _ _)

theorem card_toFinset_eq_length_eraseDups (xs : List α) :
    xs.toFinset.card = xs.eraseDups.length := by
  have same : xs.toFinset = xs.eraseDups.toFinset := by
    ext a
    simp
  rw [same, List.toFinset_card_of_nodup (nodup_eraseDups xs)]

theorem numbersByFirstUse_idxOf (uses : List α) : NumbersByFirstUse uses uses.eraseDups.idxOf := by
  intro before a after split new
  -- what is in use before `a` comes first among the different items, and `a` right after it
  have rest : (a :: after).removeAll before = a :: after.removeAll before := by
    simp [List.cons_removeAll, new]
  show uses.eraseDups.idxOf a = _
  rw [split, List.eraseDups_append, rest, List.eraseDups_cons, List.idxOf_append,
    if_neg (by simpa using new), List.idxOf_cons_self, card_toFinset_eq_length_eraseDups]
  simp

theorem getElem?_eraseDups_eq_some {uses : List α} {i : Nat} {a : α} :
    uses.eraseDups[i]? = some a ↔ a ∈ uses ∧ uses.eraseDups.idxOf a = i := by
  constructor
  · intro found
    obtain ⟨inside, rfl⟩ := List.getElem?_eq_some_iff.1 found
    exact ⟨List.mem_eraseDups.1 (List.getElem_mem inside),
      (nodup_eraseDups uses).idxOf_getElem i inside⟩
  · rintro ⟨used, rfl⟩
    exact List.getElem?_idxOf (List.mem_eraseDups.2 used)

theorem bijOn_idxOf (uses : List α) :
    Set.BijOn uses.eraseDups.idxOf {a | a ∈ uses} (Set.Iio uses.eraseDups.length) := by
  refine ⟨?_, ?_, ?_⟩
  · intro a used
    exact List.idxOf_lt_length_of_mem (List.mem_eraseDups.2 used)
  · intro a used b _ same
    exact (List.idxOf_inj (List.mem_eraseDups.2 used)).1 same
  · intro i inside
    refine ⟨uses.eraseDups[i], List.mem_eraseDups.1 (List.getElem_mem inside), ?_⟩
    exact (nodup_eraseDups uses).idxOf_getElem i inside

end FirstUse

namespace IndexedModel

def Uses (d : Document) (es : Elements) (p : Place) : Prop :=
  (∃ s ∈ es.exposures.values.flatten, stancePlace s = p) ∨
  (∃ s ∈ es.mitigations.values.flatten, stancePlace s = p) ∨
  ∃ c ∈ d.dataflow.connections, c.origin = p ∨ c.target = p

theorem mem_usedPlaces {d : Document} {es : Elements} {p : Place} :
    p ∈ usedPlaces d es ↔ Uses d es p := by
  simp only [usedPlaces, Uses, List.mem_append, List.mem_map, List.mem_flatMap, List.mem_cons,
    List.not_mem_nil, or_false, or_and_right, exists_or, or_assoc, eq_comm]

/-- Numbers for boundaries and places under which the indexed model `m`, with `model` for the
project, repeats what the document `d` says of the project's elements `es`. -/
structure Renumbers (d : Document) (es : Elements) (project : String) (boundary : String → Nat)
    (component : Place → Nat) (m : IndexedModel) (model : ProjectModel) : Prop where
  boundary_numbers : Set.BijOn boundary {b | ∃ p, Uses d es p ∧ p.boundary = b}
    {i | (m.boundary? project i).isSome}
  component_numbers : Set.BijOn component {p | Uses d es p} {i | (m.component? project i).isSome}
  boundary_range : ∃ n, {i | (m.boundary? project i).isSome} = Set.Iio n
  component_range : ∃ n, {i | (m.component? project i).isSome} = Set.Iio n
  boundary_order : NumbersByFirstUse ((usedPlaces d es).map (·.boundary)) boundary
  component_order : NumbersByFirstUse (usedPlaces d es) component
  boundary_name : ∀ p, Uses d es p → m.boundary? project (boundary p.boundary) =
    some ⟨(d.boundaries.get? p.boundary).elim p.boundary (·.name)⟩
  component_name : ∀ p, Uses d es p → m.component? project (component p) =
    some ⟨(d.component? p.boundary p.component).elim p.component (·.name)⟩
  exposes : ∀ i, model.exposes.get? i = es.exposures.values.flatten[i]?.map fun s => {
    boundary := boundary s.boundary
    component := component ⟨s.boundary, s.component⟩
    exposure := s.text
    refs := s.refs
    threat := s.threat }
  mitigates : ∀ i, model.mitigates.get? i = es.mitigations.values.flatten[i]?.map fun s => {
    boundary := boundary s.boundary
    component := component ⟨s.boundary, s.component⟩
    mitigation := s.text
    refs := s.refs
    threat := s.threat }
  /-- An edge sends its message forth, and back at once if it goes both ways. -/
  sends : ∀ i, model.sends.get? i = (d.dataflow.connections.flatMap fun c =>
    let send (source target : Place) : SendsEntry := {
      srcBoundary := boundary source.boundary
      srcComponent := component source
      dstBoundary := boundary target.boundary
      dstComponent := component target
      message := c.edge.label.getD "" }
    send c.origin c.target ::
      if c.edge.direction = .bothWays then [send c.target c.origin] else [])[i]?

theorem flows_eq (n : Numbering) (c : Connection) :
    flows n c = flow n c.origin c.target (c.edge.label.getD "") ::
      if c.edge.direction = .bothWays then [flow n c.target c.origin (c.edge.label.getD "")]
      else [] := by
  unfold flows
  cases c.edge.direction <;> rfl

theorem boundary?_ofElements (d : Document) (project : String) (es : Elements) (i : Nat) :
    (ofElements d project es).boundary? project i =
      ((usedPlaces d es).map (·.boundary)).eraseDups[i]?.map (boundaryName d) := by
  simp [ofElements, boundary?, SortedMap.get?_ofPositions, Numbering.ofPlaces]

theorem component?_ofElements (d : Document) (project : String) (es : Elements) (i : Nat) :
    (ofElements d project es).component? project i =
      (usedPlaces d es).eraseDups[i]?.map (componentName d) := by
  simp [ofElements, component?, SortedMap.get?_ofPositions, Numbering.ofPlaces]

theorem isSome_map_getElem? {α β : Type} (f : α → β) (xs : List α) :
    {i | (xs[i]?.map f).isSome = true} = Set.Iio xs.length := by
  ext i
  simp

theorem ofDocument_renumbers {d : Document} {project : String} {es : Elements}
    (declared : d.projects.get? project = some es) :
    ∃ m model boundary component, ofDocument d project = .ok m ∧
      m.models.get? project = some model ∧ Renumbers d es project boundary component m model := by
  have boundaries : {i | ((ofElements d project es).boundary? project i).isSome = true} =
      Set.Iio ((usedPlaces d es).map (·.boundary)).eraseDups.length := by
    simp only [boundary?_ofElements, isSome_map_getElem?]
  have components : {i | ((ofElements d project es).component? project i).isSome = true} =
      Set.Iio (usedPlaces d es).eraseDups.length := by
    simp only [component?_ofElements, isSome_map_getElem?]
  refine ⟨ofElements d project es, projectModel d es (Numbering.ofPlaces (usedPlaces d es)),
    ((usedPlaces d es).map (·.boundary)).eraseDups.idxOf, (usedPlaces d es).eraseDups.idxOf,
    by simp only [ofDocument, declared], SortedMap.get?_insert_self _ _ _, ?_⟩
  constructor
  case boundary_numbers =>
    have used : {b | ∃ p, Uses d es p ∧ p.boundary = b} =
        {b | b ∈ (usedPlaces d es).map (·.boundary)} := by
      ext b
      simp [mem_usedPlaces]
    rw [used, boundaries]
    exact bijOn_idxOf _
  case component_numbers =>
    simp only [← mem_usedPlaces, components]
    exact bijOn_idxOf _
  case boundary_range => exact ⟨_, boundaries⟩
  case component_range => exact ⟨_, components⟩
  case boundary_order => exact numbersByFirstUse_idxOf _
  case component_order => exact numbersByFirstUse_idxOf _
  case boundary_name =>
    intro p used
    have member : p.boundary ∈ ((usedPlaces d es).map (·.boundary)).eraseDups :=
      List.mem_eraseDups.2 (List.mem_map_of_mem (mem_usedPlaces.2 used))
    rw [boundary?_ofElements, List.getElem?_idxOf member]
    rfl
  case component_name =>
    intro p used
    have member : p ∈ (usedPlaces d es).eraseDups := List.mem_eraseDups.2 (mem_usedPlaces.2 used)
    rw [component?_ofElements, List.getElem?_idxOf member]
    rfl
  case exposes =>
    intro i
    simp only [projectModel, SortedMap.get?_ofPositions, List.getElem?_map]
    rfl
  case mitigates =>
    intro i
    simp only [projectModel, SortedMap.get?_ofPositions, List.getElem?_map]
    rfl
  case sends =>
    intro i
    simp only [projectModel, SortedMap.get?_ofPositions]
    rw [funext (flows_eq _)]
    rfl

def sampleElements : Elements :=
  let exposure : Stance := { boundary := "@app", component := "@log", threat := "@leak",
                             text := "debug output", source := {} }
  let mitigation : Stance := { boundary := "@host", component := "@log", threat := "@leak",
                               text := "filters", source := {} }
  (({} : Elements).addStance .exposure "@debug_output" exposure).addStance
    .mitigation "@filters" mitigation

def sampleDocument : Document where
  dataflow := (({} : Dataflow).add (.between ⟨"@app", "@log"⟩ ⟨"@app", "@log"⟩
    { direction := .bothWays, source := {} })).add (.between ⟨"@app", "@log"⟩ ⟨"@host", "@log"⟩
    { direction := .oneWay, label := "lines", source := {} })
  projects := (∅ : SortedMap String Elements).insert "main" sampleElements

theorem sampleDocument_renumbered :
    sampleDocument.projects.get? "main" = some sampleElements ∧
    ∃ m model boundary component, ofDocument sampleDocument "main" = .ok m ∧
      m.models.get? "main" = some model ∧
      Renumbers sampleDocument sampleElements "main" boundary component m model := by
  have declared : sampleDocument.projects.get? "main" = some sampleElements :=
    SortedMap.get?_insert_self _ _ _
  exact ⟨declared, ofDocument_renumbers declared⟩

end IndexedModel

end ThreatModel
