import ThreatModel.Proofs.Registry.Plan
import ThreatModel.Proofs.Registry.Recording

namespace ThreatModel

/-- The element that a tag records, if it can be read and all its names have identifiers. -/
def Tag.element? (tag : Tag) : Option Element :=
  (Statement.ofText? tag.kind tag.text).bind fun s =>
    if s.nameless? = none then s.element? tag.source else none

theorem Tag.element?_eq_some {tag : Tag} {e : Element} :
    tag.element? = some e ↔ ∃ s, Statement.ofText? tag.kind tag.text = some s ∧
      s.nameless? = none ∧ s.element? tag.source = some e := by
  simp only [element?, Option.bind_eq_some_iff, Option.ite_none_right_eq_some]

namespace Registry

theorem elements_nameSubject (r : Registry) (name : String) (subject : Subject) :
    (r.nameSubject name subject).1.elements = r.elements := by
  rw [nameSubject_eq]
  split
  · rfl
  · cases subject <;> rfl

theorem kept_describeSubject (r : Registry) (text : String) (source : Source) (subject : Subject) :
    (r.describeSubject text source subject).1.elements = r.elements ∧
      (r.describeSubject text source subject).1.created = r.created ∧
      (r.describeSubject text source subject).1.updated = r.updated := by
  cases subject with
  | boundary id | threat id =>
    simp only [describeSubject]
    split <;> exact ⟨rfl, rfl, rfl⟩
  | component b id =>
    simp only [describeSubject]
    split
    · exact ⟨rfl, rfl, rfl⟩
    · split <;> exact ⟨rfl, rfl, rfl⟩

theorem elements_state_of_none (r : Registry) {s : Statement} {source : Source}
    (nothing : s.element? source = none) : (r.state source s).1.elements = r.elements := by
  cases s with
  | naming subject name => exact elements_nameSubject r name subject
  | describing subject text => exact (kept_describeSubject r text source subject).1
  | connecting origin target direction label => rfl
  | reviewing place text => cases nothing
  | standing kind place threat text => cases nothing

theorem elements_apply (r : Registry) (tag : Tag) :
    (r.apply tag).1.elements =
      tag.element?.elim r.elements fun e => r.elements.record (Identifier.ofText e.text) e := by
  unfold apply Tag.element?
  cases Statement.ofText? tag.kind tag.text with
  | none => rfl
  | some s =>
    rw [Option.bind_some]
    cases recorded : s.element? tag.source with
    | none => simpa using elements_state_of_none r recorded
    | some e =>
      have settled := settled_state r recorded
      cases nameless : s.nameless? with
      | none =>
        rw [Settled, show s.names.find? _ = _ from nameless] at settled
        exact settled.2
      | some name =>
        rw [Settled, show s.names.find? _ = _ from nameless] at settled
        exact settled.2

theorem mem_elements_apply {r : Registry} {tag : Tag} {e : Element} :
    e ∈ (r.apply tag).1.elements.toList ↔ e ∈ r.elements.toList ∨ tag.element? = some e := by
  rw [elements_apply]
  cases tag.element? with
  | none => simp
  | some other => simp [Elements.mem_toList_record, eq_comm]

theorem times_apply (r : Registry) (tag : Tag) :
    (r.apply tag).1.created = r.created ∧ (r.apply tag).1.updated = r.updated := by
  by_cases describes : tag.kind = .describes
  · unfold apply
    cases read : Statement.ofText? tag.kind tag.text with
    | none => exact ⟨rfl, rfl⟩
    | some s =>
      have kind := Statement.kind_of_ofText? read
      rw [describes] at kind
      obtain ⟨subject, text, rfl⟩ := Statement.eq_describing kind
      exact (kept_describeSubject r text tag.source subject).2
  · obtain ⟨updates, error?, done⟩ := planned_apply tag describes
    dsimp only at done
    rw [done r]
    exact times_foldl_perform updates r

theorem mem_elements_applyEach {r : Registry} {tags : List Tag} {e : Element} :
    e ∈ (r.applyEach tags).1.elements.toList ↔
      e ∈ r.elements.toList ∨ ∃ tag ∈ tags, tag.element? = some e := by
  induction tags generalizing r with
  | nil => simp [applyEach]
  | cons tag tags ih =>
    simp only [applyEach]
    rw [ih, mem_elements_apply, or_assoc]
    simp

theorem times_applyEach (r : Registry) (tags : List Tag) :
    (r.applyEach tags).1.created = r.created ∧ (r.applyEach tags).1.updated = r.updated := by
  induction tags generalizing r with
  | nil => exact ⟨rfl, rfl⟩
  | cons tag tags ih =>
    obtain ⟨created, updated⟩ := times_apply r tag
    obtain ⟨created', updated'⟩ := ih (r.apply tag).1
    exact ⟨created'.trans created, updated'.trans updated⟩

end Registry

end ThreatModel
