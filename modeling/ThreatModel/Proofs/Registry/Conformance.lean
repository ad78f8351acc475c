import ThreatModel.Proofs.Document.Conformance
import ThreatModel.Proofs.Registry.Recorded
import ThreatModel.Proofs.Tag.Comment
import ThreatModel.Proofs.Tag.Names
import ThreatModel.Registry.Exchange

namespace ThreatModel

open Schema

namespace Statement

theorem proper_place {s : Statement} (spelled : s.Spelled) {place : Place} (about : place ∈ s.places)
    (boundary : ¬ Naming.Nameless place.boundary) (component : ¬ Naming.Nameless place.component) :
    Identifier.Proper (Identifier.ofText place.boundary) ∧
      Identifier.Proper (Identifier.ofText place.component) :=
  ⟨(spelled place about).1.proper boundary, (spelled place about).2.proper component⟩

end Statement

namespace Tag

/-- The tag records an element whose threat starts with an `@` but is no proper identifier. -/
def HasLooseThreat (tag : Tag) : Prop :=
  ∃ kind place threat text,
    Statement.ofText? tag.kind tag.text = some (.standing kind place threat text) ∧
    (Statement.standing kind place threat text).nameless? = none ∧
    Identifier.isIdentifier threat = true ∧ ¬ Identifier.Proper threat

theorem proper_element_iff {style : CommentStyle} {tag : Tag} (found : tag.Found style) {e : Element}
    (recorded : tag.element? = some e) : e.Proper ↔ ¬ tag.HasLooseThreat := by
  obtain ⟨s, read, nameless, adds⟩ := Tag.element?_eq_some.1 recorded
  have spelled := Statement.spelled_of_read read
  cases s with
  | naming | describing | connecting => cases adds
  | reviewing place text =>
    obtain rfl := Option.some.inj adds
    obtain ⟨boundary, component⟩ := Statement.nameless?_reviewing.1 nameless
    have ⟨home, spot⟩ :=
      Statement.proper_place spelled (List.mem_singleton_self place) boundary component
    constructor
    · intro _ loose
      obtain ⟨_, _, _, _, other, _⟩ := loose
      rw [read] at other
      cases other
    · intro _
      exact ⟨home, spot, fun threat none => by cases none⟩
  | standing kind place threat text =>
    obtain rfl := Option.some.inj adds
    obtain ⟨boundary, component, named⟩ := Statement.nameless?_standing.1 nameless
    have ⟨home, spot⟩ :=
      Statement.proper_place spelled (List.mem_singleton_self place) boundary component
    constructor
    · intro proper loose
      obtain ⟨_, _, _, _, same, _, already, improper⟩ := loose
      rw [read] at same
      cases same
      have kept : Identifier.ofText threat = threat := by simp [Identifier.ofText, already]
      exact improper (kept ▸ proper.2.2 _ rfl)
    · intro tight
      refine ⟨home, spot, fun t same => ?_⟩
      obtain rfl := Option.some.inj same
      refine Identifier.Spelled.proper ⟨Statement.threat_of_found found read, ?_⟩ named
      intro already
      by_contra improper
      exact tight ⟨kind, place, threat, text, read, nameless, already, improper⟩

theorem element?_of_hasLooseThreat {tag : Tag} (loose : tag.HasLooseThreat) :
    ∃ e, tag.element? = some e := by
  obtain ⟨kind, place, threat, text, read, nameless, _⟩ := loose
  exact ⟨_, Tag.element?_eq_some.2 ⟨_, read, nameless, rfl⟩⟩

end Tag

namespace Registry

variable {style : CommentStyle} {tags : List Tag}

theorem proper_elements_iff (found : ∀ tag ∈ tags, tag.Found style) (r : Registry)
    (empty : r.elements.toList = []) :
    (∀ e ∈ (r.applyEach tags).1.elements.toList, e.Proper) ↔
      ∀ tag ∈ tags, ¬ tag.HasLooseThreat := by
  simp only [mem_elements_applyEach, empty, List.not_mem_nil, false_or]
  constructor
  · intro proper tag member loose
    obtain ⟨e, recorded⟩ := Tag.element?_of_hasLooseThreat loose
    have fine := proper e ⟨tag, member, recorded⟩
    exact (Tag.proper_element_iff (found tag member) recorded).1 fine loose
  · intro tight e recorded
    obtain ⟨tag, member, recorded⟩ := recorded
    exact (Tag.proper_element_iff (found tag member) recorded).2 (tight tag member)

/-- After a scan all identifiers of elements are proper, unless a tag has a loose threat. -/
theorem proper_elements_scan {s : Scan} {w : Workspace} {path : String}
    (scanned : s.tags w path = .ok tags) {r : Registry} (empty : r.elements.toList = []) :
    (∀ e ∈ (r.applyAll tags).1.elements.toList, e.Proper) ↔
      ∀ tag ∈ tags, ¬ tag.HasLooseThreat := by
  have same : ∀ tag, tag ∈ inRankOrder tags ↔ tag ∈ tags :=
    fun _ => (List.mergeSort_perm tags _).mem_iff
  have found : ∀ tag ∈ inRankOrder tags, tag.Found s.style :=
    fun tag member => Scan.found_of_mem_tags scanned tag ((same tag).1 member)
  refine (proper_elements_iff found r empty).trans ?_
  simp only [same]

theorem entries_toDocument (r : Registry) (project : String) :
    (r.toDocument project).projects.entries = [(project, r.elements)] := rfl

/-- What is found in text and applied to a new registry is exported without problems, but for
threats that start with an `@` and are no proper identifiers. -/
theorem problems_toDocument_eq_nil {created updated : Int} (sinceCreated : 0 ≤ created)
    (sinceUpdated : 0 ≤ updated) (project : String) (found : ∀ tag ∈ tags, tag.Found style) :
    (Validator.intermediate.outcome 0
        ((({ created, updated } : Registry).applyEach tags).1.toDocument project).toJson).problems
      = [] ↔ ∀ tag ∈ tags, ¬ tag.HasLooseThreat := by
  rw [Validator.problems_intermediate_eq_nil, Document.accepts_toJson, entries_toDocument,
    List.forall_mem_singleton, proper_elements_iff found { created, updated } rfl]
  have ⟨created', updated'⟩ := times_applyEach { created, updated } tags
  have times : 0 ≤ (({ created, updated } : Registry).applyEach tags).1.created ∧
      0 ≤ (({ created, updated } : Registry).applyEach tags).1.updated := by
    rw [created', updated']
    exact ⟨sinceCreated, sinceUpdated⟩
  constructor
  · intro h
    exact h.2.2
  · intro tight
    exact ⟨rfl, times, tight⟩

def shop : List Tag :=
  [⟨.mitigates, "@mitigates Web:App against XSS with output encoding (#12)", { line := 1 }⟩,
   ⟨.reviews, "@review @web:@app session handling", { line := 2 }⟩]

theorem problems_shop :
    (∀ tag ∈ shop, tag.Found .usual) ∧
      (Validator.intermediate.outcome 0
        ((({ created := 1, updated := 2 } : Registry).applyEach shop).1.toDocument
          "shop").toJson).problems = [] := by
  have found : ∀ tag ∈ shop, tag.Found .usual := by
    intro tag member
    rw [CommentStyle.usual_eq]
    simp only [shop, List.mem_cons, List.not_mem_nil, or_false] at member
    rcases member with rfl | rfl
    · exact ⟨"// @mitigates Web:App against XSS with output encoding (#12)".toList, { line := 1 },
        by decide +kernel⟩
    · exact ⟨"# @review  @web:@app session handling".toList, { line := 2 }, by decide +kernel⟩
  refine ⟨found, (problems_toDocument_eq_nil (by decide) (by decide) "shop" found).2 ?_⟩
  intro tag member loose
  simp only [shop, List.mem_cons, List.not_mem_nil, or_false] at member
  obtain ⟨kind, _, _, _, read, _, already, _⟩ := loose
  rcases member with rfl | rfl
  · have spoken : Statement.ofText? .mitigates
        "@mitigates Web:App against XSS with output encoding (#12)" =
        some (.standing .mitigation ⟨"Web", "App"⟩ "XSS" "output encoding (#12)") := by
      decide +kernel
    rw [spoken] at read
    cases read
    cases already
  · have same := Statement.kind_of_ofText? read
    cases kind <;> cases same

def injectedShop : List Tag :=
  [⟨.exposes, "@exposes @web:@app to @sql injection with raw queries", { line := 1 }⟩]

/-- The text of a threat may follow its `@`. -/
theorem problems_injectedShop :
    (∀ tag ∈ injectedShop, tag.Found .usual) ∧ (({} : Registry).applyEach injectedShop).2 = [] ∧
      (Validator.intermediate.outcome 0
        ((({} : Registry).applyEach injectedShop).1.toDocument "shop").toJson).problems.length
          = 1 := by
  refine ⟨?_, ?_, ?_⟩
  · intro tag member
    obtain rfl := List.mem_singleton.1 member
    rw [CommentStyle.usual_eq]
    exact ⟨"// @exposes @web:@app to @sql injection with raw queries".toList, { line := 1 },
      by decide +kernel⟩
  · decide +kernel
  · decide +kernel

end Registry

end ThreatModel
