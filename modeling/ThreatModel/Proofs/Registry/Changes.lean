import ThreatModel.Proofs.Registry.Plan
import ThreatModel.Proofs.Registry.Recording

namespace ThreatModel

open Identifier

def EntryClass.subject (home name : String) : EntryClass → Subject
  | boundary => .boundary (ofText name)
  | component => .component (ofText home) (ofText name)
  | threat => .threat (ofText name)

namespace Naming

/-- The names that are given to entries when they are registered one after the other. Identifiers
give no name, and the first name without an identifier ends it. -/
def given (home : String) : List (EntryClass × String) → List (Subject × String)
  | [] => []
  | (cls, name) :: names =>
    if Nameless name then []
    else if isIdentifier name then given home names
    else (cls.subject home name, name) :: given home names

def stop? (names : List (EntryClass × String)) : Option TagError :=
  (names.find? fun name => Nameless name.2).map fun name => .emptyIdentifier name.1 name.2

end Naming

def Registry.declarations (names : List (Subject × String)) : List Registry.Update :=
  names.map fun name => .declare name.1 name.2

namespace Statement

def home : Statement → String
  | reviewing place _ | standing _ place _ _ => place.boundary
  | naming _ _ | describing _ _ | connecting _ _ _ _ => ""

def registers : Statement → List (Subject × String)
  | naming subject name => if isIdentifier name then [] else [(subject, name)]
  | s => Naming.given s.home s.names

def failure? : Statement → Option TagError
  | naming subject name =>
    if isIdentifier name then some (.identifierConflict subject.entryClass name) else none
  | s => Naming.stop? s.names

def last (source : Source) : Statement → List Registry.Update
  | connecting origin target direction label =>
    [.connect (.between origin target ⟨direction, label, source⟩)]
  | s => (s.element? source).toList.map fun e => .record (ofText e.text) e

def changes (source : Source) (s : Statement) : List Registry.Update :=
  Registry.declarations s.registers ++ s.failure?.elim (s.last source) fun _ => []

end Statement

namespace Registry

/-- The step registers names one after the other, and then makes the last changes. -/
def Registering (home : String) (names : List (EntryClass × String)) (last : List Update)
    (step : Registry → Outcome) : Prop :=
  ∀ r, step r =
    ((declarations (Naming.given home names) ++
        (Naming.stop? names).elim last fun _ => []).foldl perform r,
      Naming.stop? names)

section Registering

variable {home name : String} {names : List (EntryClass × String)} {last : List Update}
  {next : String → Registry → Outcome}

theorem registering_cons {cls : EntryClass} {noted : Registry → Naming → Registry}
    (kept : ∀ r, noted r .identifier = r)
    (declared : ∀ r, noted r (.named (ofText name)) =
      r.perform (.declare (cls.subject home name) name))
    (later : Registering home names last (next (ofText name))) :
    Registering home ((cls, name) :: names) last fun r =>
      r.proceed ((Naming.of cls name none).map fun n => (n.id name, noted r n)) next := by
  intro r
  dsimp only
  rw [proceed_map, Naming.given, Naming.stop?]
  by_cases nameless : Naming.Nameless name
  · rw [Naming.of_nameless nameless, if_pos nameless, List.find?_cons_of_pos (by simpa using nameless)]
    rfl
  · rw [if_neg nameless, List.find?_cons_of_neg (by simpa using nameless)]
    cases already : isIdentifier name with
    | true =>
      have same : ofText name = name := by simp [ofText, already]
      rw [same] at later
      rw [Naming.of_identifier already, if_pos rfl]
      dsimp only
      rw [kept]
      exact later r
    | false =>
      rw [Naming.of_fresh already nameless]
      dsimp only
      rw [declared]
      exact later _

theorem registering_addBoundary (later : Registering home names last (next (ofText name))) :
    Registering home ((.boundary, name) :: names) last fun r =>
      r.proceed (r.addBoundary name none) next := by
  simp only [addBoundary_eq]
  exact registering_cons (fun _ => rfl) (fun _ => rfl) later

theorem registering_addComponent (later : Registering home names last (next (ofText name))) :
    Registering home ((.component, name) :: names) last fun r =>
      r.proceed (r.addComponent (ofText home) name none) next := by
  simp only [addComponent_eq]
  exact registering_cons (fun _ => rfl) (fun _ => rfl) later

theorem registering_addThreat (later : Registering home names last (next (ofText name))) :
    Registering home ((.threat, name) :: names) last fun r =>
      r.proceed (r.addThreat name none) next := by
  simp only [addThreat_eq]
  exact registering_cons (fun _ => rfl) (fun _ => rfl) later

theorem registering_addPlace {p : Place} {next : Place → Registry → Outcome}
    (later : Registering p.boundary names last (next p.identified)) :
    Registering p.boundary ((.boundary, p.boundary) :: (.component, p.component) :: names) last
      fun r => r.addPlace p next := by
  unfold addPlace
  apply registering_addBoundary
  exact registering_addComponent later

end Registering

/-- Every statement but a description makes its changes, whatever the registry has, and ends in the
same way. -/
theorem state_eq (r : Registry) (source : Source) {s : Statement} (other : s.kind ≠ .describes) :
    r.state source s = ((s.changes source).foldl perform r, s.failure?) := by
  cases s with
  | describing subject text => exact absurd rfl other
  | connecting origin target direction label => rfl
  | naming subject name =>
    have stated : r.state source (.naming subject name) = r.nameSubject name subject := rfl
    rw [stated, nameSubject_eq, Statement.changes, Statement.registers, Statement.failure?]
    split <;> rfl
  | reviewing place text =>
    have registering : Registering place.boundary (Statement.reviewing place text).names
        ((Statement.reviewing place text).last source)
        fun r => r.state source (.reviewing place text) := by
      simp only [state, Statement.names]
      exact registering_addPlace fun _ => rfl
    exact registering r
  | standing kind place threat text =>
    have registering : Registering place.boundary (Statement.standing kind place threat text).names
        ((Statement.standing kind place threat text).last source)
        fun r => r.state source (.standing kind place threat text) := by
      simp only [state, Statement.names]
      split
      · apply registering_addPlace
        exact registering_addThreat fun _ => rfl
      · apply registering_addThreat
        exact registering_addPlace fun _ => rfl
    exact registering r

end Registry

end ThreatModel
