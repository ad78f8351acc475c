import ThreatModel.Registry.Apply

namespace ThreatModel

namespace Naming

def id (name : String) : Naming → String
  | identifier => name
  | named id => id

def Nameless (name : String) : Prop :=
  Identifier.isIdentifier name = false ∧ Identifier.ofText name = Identifier.bare

instance (name : String) : Decidable (Nameless name) := inferInstanceAs (Decidable (_ ∧ _))

theorem of_nameless {name : String} (h : Nameless name) (cls : EntryClass) :
    of cls name none = .error (.emptyIdentifier cls name) := by
  unfold of
  simp only [h.1, Bool.false_eq_true, if_false, h.2, if_true]

theorem of_identifier {name : String} (already : Identifier.isIdentifier name = true)
    (cls : EntryClass) : of cls name none = .ok identifier := by
  simp only [of, already, if_true]

theorem of_fresh {name : String} (fresh : Identifier.isIdentifier name = false)
    (h : ¬ Nameless name) (cls : EntryClass) :
    of cls name none = .ok (named (Identifier.ofText name)) := by
  have derived : Identifier.ofText name ≠ Identifier.bare := fun bare => h ⟨fresh, bare⟩
  simp only [of, fresh, Bool.false_eq_true, if_false, derived]

theorem of_not_nameless {name : String} (h : ¬ Nameless name) (cls : EntryClass) :
    ∃ n, of cls name none = .ok n ∧ n.id name = Identifier.ofText name := by
  cases already : Identifier.isIdentifier name with
  | true =>
    refine ⟨identifier, of_identifier already cls, ?_⟩
    simp [id, Identifier.ofText, already]
  | false => exact ⟨named (Identifier.ofText name), of_fresh already h cls, rfl⟩

end Naming

namespace Registry

def noteBoundary (r : Registry) (name : String) : Naming → Registry
  | .identifier => r
  | .named id => { r with boundaries := r.boundaries.insertNew id { name } }

def noteComponent (r : Registry) (boundary name : String) : Naming → Registry
  | .identifier => r
  | .named id => { r with
      components := r.components.upsert boundary fun held => (held.getD ∅).insertNew id { name } }

def noteThreat (r : Registry) (name : String) : Naming → Registry
  | .identifier => r
  | .named id => { r with threats := r.threats.insertNew id { name } }

theorem addBoundary_eq (r : Registry) (name : String) (id : Option String) :
    r.addBoundary name id =
      (Naming.of .boundary name id).map fun n => (n.id name, r.noteBoundary name n) := by
  unfold addBoundary
  cases Naming.of .boundary name id with
  | error e => rfl
  | ok n => cases n <;> rfl

theorem addComponent_eq (r : Registry) (boundary name : String) (id : Option String) :
    r.addComponent boundary name id =
      (Naming.of .component name id).map fun n =>
        (n.id name, r.noteComponent boundary name n) := by
  unfold addComponent
  cases Naming.of .component name id with
  | error e => rfl
  | ok n => cases n <;> rfl

theorem addThreat_eq (r : Registry) (name : String) (id : Option String) :
    r.addThreat name id =
      (Naming.of .threat name id).map fun n => (n.id name, r.noteThreat name n) := by
  unfold addThreat
  cases Naming.of .threat name id with
  | error e => rfl
  | ok n => cases n <;> rfl

theorem proceed_map {α : Type} (r : Registry) (decision : Except TagError Naming)
    (f : Naming → α × Registry) (next : α → Registry → Outcome) :
    r.proceed (decision.map f) next =
      match decision with
      | .error e => (r, some e)
      | .ok n => next (f n).1 (f n).2 := by
  cases decision <;> rfl

end Registry

end ThreatModel
