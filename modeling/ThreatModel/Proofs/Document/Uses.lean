import Mathlib.Data.List.Count
import ThreatModel.Document.References
import ThreatModel.Proofs.Dataflow.History
import ThreatModel.Proofs.SortedMap.Lists

namespace ThreatModel

open SortedMap

/-- What uses identifiers: an element of a project, or one end of an edge. -/
inductive Use where
  | element (project : String) (e : Element)
  | origin (c : Connection)
  | target (c : Connection)
deriving DecidableEq

namespace Use

def context : Use → String
  | element project e => project ++ "/" ++ e.word
  | origin _ | target _ => "dfd"

def place : Use → Place
  | element _ e => ⟨e.boundary, e.component⟩
  | origin c => c.origin
  | target c => c.target

def threat? : Use → Option String
  | element _ e => e.threat?
  | origin _ | target _ => none

def location : Use → String
  | element _ e => e.source.location
  | origin c | target c => c.edge.source.location

def ends (c : Connection) : List Use := [origin c, target c]

end Use

namespace Elements

def timesRecorded (es : Elements) : Element → Nat
  | .stance kind s => (es.stances kind).values.flatten.count s
  | .review r => es.reviews.values.flatten.count r

theorem count_toList (es : Elements) (e : Element) : es.toList.count e = es.timesRecorded e := by
  have same (kind : StanceKind) (ss : List Stance) (s : Stance) :
      (ss.map (Element.stance kind)).count (.stance kind s) = ss.count s :=
    List.count_map_of_injective ss _ (fun _ _ same => (Element.stance.inj same).2) s
  have review (rs : List Review) (r : Review) :
      (rs.map Element.review).count (.review r) = rs.count r :=
    List.count_map_of_injective rs _ (fun _ _ same => Element.review.inj same) r
  have others {α : Type} {f : α → Element} (apart : ∀ x, f x ≠ e) (xs : List α) :
      (xs.map f).count e = 0 :=
    List.count_eq_zero.2 fun member => by
      obtain ⟨x, _, here⟩ := List.mem_map.1 member
      exact apart x here
  unfold toList
  simp only [List.count_append]
  cases e with
  | stance kind s =>
    cases kind <;> simp [same, others, timesRecorded, stances, -List.map_flatten]
  | review r => simp [review, others, timesRecorded, -List.map_flatten]

end Elements

namespace Document

def elementUses (d : Document) : List Use :=
  d.projects.entries.flatMap fun e => e.2.toList.map (.element e.1)

def uses (d : Document) : List Use := d.elementUses ++ d.dataflow.connections.flatMap Use.ends

/-- How often the document has a use: an element as often as it is recorded, and the ends of an edge
once. -/
def timesUsed (d : Document) : Use → Nat
  | .element project e => (d.projects.get? project).elim 0 (·.timesRecorded e)
  | .origin c | .target c => if d.dataflow.edge? c.origin c.target = some c.edge then 1 else 0

theorem count_ends (cs : List Connection) (c : Connection) :
    (cs.flatMap Use.ends).count (.origin c) = cs.count c ∧
      (cs.flatMap Use.ends).count (.target c) = cs.count c := by
  induction cs with
  | nil => exact ⟨rfl, rfl⟩
  | cons b cs ih =>
    rw [List.flatMap_cons, List.count_append, List.count_append, ih.1, ih.2, List.count_cons]
    by_cases here : b = c <;> simp [Use.ends, here, Nat.add_comm]

theorem count_elementUses (d : Document) (project : String) (e : Element) :
    d.elementUses.count (.element project e) =
      (d.projects.get? project).elim 0 (·.timesRecorded e) := by
  have recorded (es : Elements) :
      (es.toList.map (Use.element project)).count (.element project e) = es.timesRecorded e := by
    rw [List.count_map_of_injective _ _ fun _ _ same => (Use.element.inj same).2, es.count_toList]
  rw [elementUses, count_flatMap_entries (k := project)]
  · simp only [recorded]
  · intro q es other member
    obtain ⟨_, _, same⟩ := List.mem_map.1 member
    exact other (Use.element.inj same).1

theorem count_uses (d : Document) (u : Use) : d.uses.count u = d.timesUsed u := by
  rw [uses, List.count_append]
  cases u with
  | element project e =>
    have apart : Use.element project e ∉ d.dataflow.connections.flatMap Use.ends := by
      simp [Use.ends]
    rw [List.count_eq_zero.2 apart, count_elementUses, Nat.add_zero, timesUsed]
  | origin c =>
    have apart : Use.origin c ∉ d.elementUses := by simp [elementUses]
    rw [List.count_eq_zero.2 apart, (count_ends _ c).1, Dataflow.count_connections, Nat.zero_add,
      timesUsed]
  | target c =>
    have apart : Use.target c ∉ d.elementUses := by simp [elementUses]
    rw [List.count_eq_zero.2 apart, (count_ends _ c).2, Dataflow.count_connections, Nat.zero_add,
      timesUsed]

/-- The issue that a use gives for an identifier of this class, unless it is declared. A component
has to be declared within its boundary, whether or not that is declared itself. -/
def missing? (d : Document) (cls : EntryClass) (u : Use) : Option ReferenceIssue :=
  match cls with
  | .boundary =>
    if d.boundaries.contains u.place.boundary then none
    else some ⟨u.context, .boundary, u.place.boundary, u.location⟩
  | .component =>
    if (d.components.get? u.place.boundary).any (·.contains u.place.component) then none
    else some ⟨u.context, .component, u.place.boundary ++ ":" ++ u.place.component, u.location⟩
  | .threat =>
    u.threat?.bind fun threat =>
      if d.threats.contains threat then none else some ⟨u.context, .threat, threat, u.location⟩

def missingPlaces (d : Document) (u : Use) : List ReferenceIssue :=
  (d.missing? .boundary u).toList ++ (d.missing? .component u).toList

theorem placeIssues_eq (d : Document) (u : Use) :
    d.placeIssues u.context u.place u.location = d.missingPlaces u := by
  have within : (d.component? u.place.boundary u.place.component).isSome =
      (d.components.get? u.place.boundary).any (·.contains u.place.component) := by
    unfold component? contains
    cases d.components.get? u.place.boundary <;> rfl
  simp only [placeIssues, missingPlaces, missing?, within]
  split <;> split <;> rfl

theorem elementPlaceIssues_eq (d : Document) (project : String) (e : Element) :
    d.elementPlaceIssues project e = d.missingPlaces (.element project e) :=
  d.placeIssues_eq (.element project e)

theorem connectionIssues_eq (d : Document) (c : Connection) :
    d.connectionIssues c = (Use.ends c).flatMap d.missingPlaces := by
  simp only [Use.ends, List.flatMap_cons, List.flatMap_nil, List.append_nil, ← placeIssues_eq]
  rfl

theorem elementThreatIssues_eq (d : Document) (project : String) (e : Element) :
    d.elementThreatIssues project e = (d.missing? .threat (.element project e)).toList := by
  unfold elementThreatIssues
  simp only [missing?, Use.threat?]
  cases e.threat? with
  | none => rfl
  | some threat =>
    simp only [Option.bind_some]
    split <;> rfl

theorem issuesOfElements_eq (d : Document) {check : String → Element → List ReferenceIssue}
    {f : Use → List ReferenceIssue} (same : ∀ project e, check project e = f (.element project e)) :
    d.issuesOfElements check = d.elementUses.flatMap f := by
  obtain rfl : check = fun project e => f (.element project e) := funext₂ same
  simp only [issuesOfElements, elementUses, List.flatMap_assoc, List.flatMap_map]

theorem referenceIssues_eq (d : Document) :
    d.referenceIssues =
      d.uses.flatMap d.missingPlaces ++ d.uses.filterMap (d.missing? .threat) := by
  have harmless : (d.dataflow.connections.flatMap Use.ends).filterMap (d.missing? .threat) = [] := by
    rw [List.filterMap_flatMap, List.flatMap_eq_nil_iff]
    exact fun _ _ => rfl
  have ends : d.dataflow.connections.flatMap d.connectionIssues =
      (d.dataflow.connections.flatMap Use.ends).flatMap d.missingPlaces := by
    rw [List.flatMap_assoc, funext d.connectionIssues_eq]
  have threats : d.issuesOfElements d.elementThreatIssues =
      d.elementUses.filterMap (d.missing? .threat) := by
    rw [List.filterMap_eq_flatMap_toList]
    exact d.issuesOfElements_eq d.elementThreatIssues_eq
  rw [referenceIssues, d.issuesOfElements_eq d.elementPlaceIssues_eq, ends, threats,
    ← List.flatMap_append, uses, List.filterMap_append, harmless, List.append_nil]

theorem cls_of_missing? {d : Document} {cls : EntryClass} {u : Use} {i : ReferenceIssue}
    (found : d.missing? cls u = some i) : i.cls = cls := by
  cases cls with
  | boundary | component =>
    simp only [missing?, Option.ite_none_left_eq_some, Option.some.injEq] at found
    exact found.2 ▸ rfl
  | threat =>
    obtain ⟨_, _, found⟩ := Option.bind_eq_some_iff.1 found
    simp only [Option.ite_none_left_eq_some, Option.some.injEq] at found
    exact found.2 ▸ rfl

theorem filter_missing? (d : Document) (cls sought : EntryClass) (u : Use) :
    (d.missing? cls u).toList.filter (·.cls = sought) =
      if cls = sought then (d.missing? sought u).toList else [] := by
  by_cases same : cls = sought
  · subst same
    rw [if_pos rfl, List.filter_eq_self]
    intro i found
    exact decide_eq_true (cls_of_missing? (Option.mem_toList.1 found))
  · rw [if_neg same, List.filter_eq_nil_iff]
    intro i found
    rw [cls_of_missing? (Option.mem_toList.1 found), decide_eq_true_eq]
    exact same

/-- For every class the issues are those of all uses, in their order and each use with at most one,
and those of threats come last. -/
theorem referenceIssues_exact (d : Document) :
    (∀ u, d.uses.count u = d.timesUsed u) ∧
    (∀ cls, d.referenceIssues.filter (·.cls = cls) = d.uses.filterMap (d.missing? cls)) ∧
    ∃ others threats, d.referenceIssues = others ++ threats ∧
      (∀ i ∈ others, i.cls ≠ .threat) ∧ ∀ i ∈ threats, i.cls = .threat := by
  refine ⟨d.count_uses, fun cls => ?_, _, _, d.referenceIssues_eq, fun i member => ?_,
    fun i member => ?_⟩
  · rw [referenceIssues_eq, List.filter_append, List.filterMap_eq_flatMap_toList,
      List.filterMap_eq_flatMap_toList, List.filter_flatMap, List.filter_flatMap]
    simp only [missingPlaces, List.filter_append, filter_missing?]
    cases cls <;> simp
  · obtain ⟨u, _, found⟩ := List.mem_flatMap.1 member
    rw [missingPlaces, List.mem_append, Option.mem_toList, Option.mem_toList] at found
    rcases found with found | found <;>
      · rw [cls_of_missing? found]
        decide
  · obtain ⟨u, _, found⟩ := List.mem_filterMap.1 member
    exact cls_of_missing? found

end Document

end ThreatModel
