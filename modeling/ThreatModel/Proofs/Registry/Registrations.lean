import ThreatModel.Proofs.Registry.Changes
import ThreatModel.Proofs.Registry.Entries

namespace ThreatModel

def Statement.description? (t : Subject) : Statement → Option String
  | describing subject text => if t = subject then some text else none
  | naming _ _ | connecting _ _ _ _ | reviewing _ _ | standing _ _ _ _ => none

theorem Statement.description?_eq_none {s : Statement} (other : s.kind ≠ .describes) (t : Subject) :
    s.description? t = none := by
  cases s with
  | describing subject text => exact absurd rfl other
  | naming | connecting | reviewing | standing => rfl

namespace Tag

def registers (tag : Tag) : List (Subject × String) :=
  (Statement.ofText? tag.kind tag.text).elim [] Statement.registers

def description? (tag : Tag) (t : Subject) : Option String :=
  (Statement.ofText? tag.kind tag.text).bind (Statement.description? t)

end Tag

namespace Registry

def namedFor? (names : List (Subject × String)) (t : Subject) : Option Entry :=
  (names.lookup t).map fun name => { name }

theorem namedFor?_cons (s : Subject) (name : String) (names : List (Subject × String))
    (t : Subject) :
    namedFor? ((s, name) :: names) t =
      (if t = s then some { name } else none).or (namedFor? names t) := by
  unfold namedFor?
  by_cases here : t = s
  · subst here
    simp
  · have other : (t == s) = false := beq_false_of_ne here
    simp [List.lookup_cons, here, other]

theorem findSome?_declarations (names : List (Subject × String)) (t : Subject) :
    (declarations names).findSome? (·.declared? t) = namedFor? names t := by
  induction names with
  | nil => rfl
  | cons first names ih =>
    obtain ⟨s, name⟩ := first
    rw [namedFor?_cons, ← ih, declarations, List.map_cons, List.findSome?_cons, Update.declared?]
    split <;> simp_all [declarations]

theorem findSome?_last (s : Statement) (source : Source) (t : Subject) :
    (s.last source).findSome? (·.declared? t) = none := by
  cases s <;> rfl

theorem held?_state (r : Registry) (source : Source) {s : Statement} (other : s.kind ≠ .describes)
    (t : Subject) :
    (r.state source s).1.held? t = (r.held? t).or (namedFor? s.registers t) := by
  have nothing : (s.failure?.elim (s.last source) fun _ => []).findSome? (·.declared? t) = none := by
    cases s.failure? with
    | none => exact findSome?_last s source t
    | some e => rfl
  rw [state_eq r source other]
  dsimp only
  rw [held?_foldl_perform, Statement.changes, List.findSome?_append, findSome?_declarations, nothing,
    Option.or_none]

/-- A tag fills gaps with the names that it gives, then describes. -/
theorem held?_apply (r : Registry) (tag : Tag) (t : Subject) :
    (r.apply tag).1.held? t =
      ((r.held? t).or (namedFor? tag.registers t)).map fun e =>
        { e with description := (tag.description? t).getD e.description } := by
  unfold apply Tag.registers Tag.description?
  cases Statement.ofText? tag.kind tag.text with
  | none => exact Option.or_none.symm.trans Option.map_id'.symm
  | some s =>
    rw [Option.bind_some, Option.elim_some]
    by_cases describes : s.kind = .describes
    · obtain ⟨subject, text, rfl⟩ := Statement.eq_describing describes
      refine (held?_describeSubject r text tag.source subject t).trans ?_
      rw [show namedFor? (Statement.describing subject text).registers t = none from rfl,
        Option.or_none, Statement.description?]
      by_cases here : t = subject
      · rw [if_pos here, if_pos here]
        rfl
      · rw [if_neg here, if_neg here]
        exact Option.map_id'.symm
    · rw [Statement.description?_eq_none describes t]
      exact (held?_state r tag.source describes t).trans Option.map_id'.symm

end Registry

end ThreatModel
