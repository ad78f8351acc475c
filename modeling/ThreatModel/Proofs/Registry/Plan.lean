import ThreatModel.Proofs.Element
import ThreatModel.Proofs.Registry.Naming
import ThreatModel.Proofs.Tag.Statement

namespace ThreatModel

def Subject.entryClass : Subject → EntryClass
  | boundary _ => .boundary
  | component _ _ => .component
  | threat _ => .threat

namespace Registry

inductive Update where
  | declare (subject : Subject) (name : String)
  | connect (c : Connection)
  | record (key : String) (e : Element)

def perform (r : Registry) : Update → Registry
  | .declare (.boundary id) name => { r with boundaries := r.boundaries.insertNew id { name } }
  | .declare (.component boundary id) name => { r with
      components := r.components.upsert boundary fun held => (held.getD ∅).insertNew id { name } }
  | .declare (.threat id) name => { r with threats := r.threats.insertNew id { name } }
  | .connect c => { r with dataflow := r.dataflow.add c }
  | .record key e => { r with elements := r.elements.record key e }

theorem times_perform (r : Registry) (u : Update) :
    (r.perform u).created = r.created ∧ (r.perform u).updated = r.updated := by
  cases u with
  | declare subject name => cases subject <;> exact ⟨rfl, rfl⟩
  | connect c => exact ⟨rfl, rfl⟩
  | record key e => exact ⟨rfl, rfl⟩

theorem times_foldl_perform (updates : List Update) (r : Registry) :
    (updates.foldl perform r).created = r.created ∧
      (updates.foldl perform r).updated = r.updated := by
  induction updates generalizing r with
  | nil => exact ⟨rfl, rfl⟩
  | cons u updates ih =>
    have ⟨created, updated⟩ := ih (r.perform u)
    have ⟨created', updated'⟩ := times_perform r u
    exact ⟨created.trans created', updated.trans updated'⟩

/-- A step that makes the same changes to every registry and always ends in the same way. -/
def Planned (step : Registry → Outcome) : Prop :=
  ∃ (updates : List Update) (error? : Option TagError),
    ∀ r, step r = (updates.foldl perform r, error?)

theorem Planned.stop (error? : Option TagError) : Planned fun r => (r, error?) :=
  ⟨[], error?, fun _ => rfl⟩

theorem Planned.after {step : Registry → Outcome} (h : Planned step) (u : Update) :
    Planned fun r => step (r.perform u) := by
  obtain ⟨updates, error?, done⟩ := h
  exact ⟨u :: updates, error?, fun r => done (r.perform u)⟩

theorem Planned.named {cls : EntryClass} {name : String} {id : Option String}
    {note : Registry → Naming → Registry} (subject : String → Subject)
    (kept : ∀ r, note r .identifier = r)
    (noted : ∀ r i, note r (.named i) = r.perform (.declare (subject i) name))
    {next : String → Registry → Outcome} (h : ∀ i, Planned (next i)) :
    Planned fun r =>
      r.proceed ((Naming.of cls name id).map fun n => (n.id name, note r n)) next := by
  simp only [proceed_map]
  cases Naming.of cls name id with
  | error e => exact Planned.stop (some e)
  | ok n =>
    cases n with
    | identifier =>
      simp only [kept]
      exact h _
    | named i =>
      simp only [noted]
      exact (h _).after _

theorem Planned.addBoundary (name : String) (id : Option String) {next : String → Registry → Outcome}
    (h : ∀ b, Planned (next b)) : Planned fun r => r.proceed (r.addBoundary name id) next := by
  simp only [addBoundary_eq]
  exact Planned.named .boundary (fun _ => rfl) (fun _ _ => rfl) h

theorem Planned.addComponent (boundary name : String) (id : Option String)
    {next : String → Registry → Outcome} (h : ∀ c, Planned (next c)) :
    Planned fun r => r.proceed (r.addComponent boundary name id) next := by
  simp only [addComponent_eq]
  exact Planned.named (.component boundary) (fun _ => rfl) (fun _ _ => rfl) h

theorem Planned.addThreat (name : String) (id : Option String) {next : String → Registry → Outcome}
    (h : ∀ t, Planned (next t)) : Planned fun r => r.proceed (r.addThreat name id) next := by
  simp only [addThreat_eq]
  exact Planned.named .threat (fun _ => rfl) (fun _ _ => rfl) h

theorem Planned.addPlace (p : Place) {next : Place → Registry → Outcome}
    (h : ∀ place, Planned (next place)) : Planned fun r => r.addPlace p next := by
  unfold Registry.addPlace
  exact Planned.addBoundary p.boundary none fun b =>
    Planned.addComponent b p.component none fun c => h ⟨b, c⟩

theorem nameSubject_eq (r : Registry) (name : String) (subject : Subject) :
    r.nameSubject name subject =
      if Identifier.isIdentifier name then
        (r, some (.identifierConflict subject.entryClass name))
      else (r.perform (.declare subject name), none) := by
  cases already : Identifier.isIdentifier name <;> cases subject <;>
    simp [nameSubject, addBoundary_eq, addComponent_eq, addThreat_eq, proceed_map, Naming.of,
      already, Subject.entryClass, perform, noteBoundary, noteComponent, noteThreat]

theorem planned_nameSubject (name : String) (subject : Subject) :
    Planned fun r => r.nameSubject name subject := by
  simp only [nameSubject_eq]
  split
  · exact Planned.stop _
  · exact (Planned.stop none).after (.declare subject name)

theorem planned_recordStance (kind : StanceKind) (place : Place) (threat text : String)
    (source : Source) : Planned fun r => (r.recordStance kind place threat text source, none) :=
  (Planned.stop none).after (.record _ (.stance kind _))

theorem planned_recordReview (place : Place) (text : String) (source : Source) :
    Planned fun r => (r.recordReview place text source, none) :=
  (Planned.stop none).after (.record _ (.review _))

theorem planned_state (source : Source) (s : Statement) (h : s.kind ≠ .describes) :
    Planned fun r => r.state source s := by
  cases s with
  | naming subject name => exact planned_nameSubject name subject
  | describing subject text => exact absurd rfl h
  | connecting origin target direction label => exact (Planned.stop none).after (.connect _)
  | reviewing place text =>
    exact Planned.addPlace place fun p => planned_recordReview p text source
  | standing kind place threat text =>
    simp only [state]
    split
    · exact Planned.addPlace place fun p => Planned.addThreat threat none fun t =>
        planned_recordStance kind p t text source
    · exact Planned.addThreat threat none fun t => Planned.addPlace place fun p =>
        planned_recordStance kind p t text source

theorem planned_apply (tag : Tag) (h : tag.kind ≠ .describes) : Planned fun r => r.apply tag := by
  unfold apply
  cases said : Statement.ofText? tag.kind tag.text with
  | none => exact Planned.stop _
  | some s => exact planned_state tag.source s (Statement.kind_of_ofText? said ▸ h)

theorem planned_applyEach {tags : List Tag} (h : ∀ tag ∈ tags, tag.kind ≠ .describes) :
    ∃ (updates : List Update) (errors : List TagError),
      ∀ r, applyEach r tags = (updates.foldl perform r, errors) := by
  induction tags with
  | nil => exact ⟨[], [], fun _ => rfl⟩
  | cons tag tags ih =>
    obtain ⟨first, error?, applied⟩ := planned_apply tag (h tag List.mem_cons_self)
    obtain ⟨later, errors, done⟩ := ih fun other member => h other (List.mem_cons_of_mem _ member)
    refine ⟨first ++ later, error?.toList ++ errors, fun r => ?_⟩
    dsimp only at applied
    simp only [applyEach, applied, done, List.foldl_append]

end Registry

end ThreatModel
