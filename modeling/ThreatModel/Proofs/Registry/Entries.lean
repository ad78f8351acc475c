import ThreatModel.Proofs.Registry.Reference

namespace ThreatModel.Registry

open SortedMap

def Update.declared? (t : Subject) : Update → Option Entry
  | .declare s name => if t = s then some { name } else none
  | .connect _ | .record _ _ => none

theorem get?_insertNew_or (m : SortedMap String Entry) (id i : String) (e : Entry) :
    (m.insertNew id e).get? i = (m.get? i).or (if i = id then some e else none) := by
  rw [get?_insertNew]
  by_cases here : i = id
  · subst here
    simp only [if_true, Option.or_some]
  · simp only [here, if_false, Option.or_none]

theorem held?_declare (r : Registry) (s : Subject) (name : String) (t : Subject) :
    (r.perform (.declare s name)).held? t =
      (r.held? t).or (if t = s then some { name } else none) := by
  cases s with
  | boundary id =>
    cases t with
    | boundary i =>
      simp only [perform, held?, get?_insertNew_or, Subject.boundary.injEq]
    | component b i | threat i => exact Option.or_none.symm
  | threat id =>
    cases t with
    | threat i =>
      simp only [perform, held?, get?_insertNew_or, Subject.threat.injEq]
    | boundary i | component b i => exact Option.or_none.symm
  | component host id =>
    cases t with
    | boundary i | threat i => exact Option.or_none.symm
    | component b i =>
      simp only [perform, held?, get?_upsert, Subject.component.injEq]
      by_cases home : b = host
      · subst home
        simp only [if_true, Option.bind_some, get?_insertNew_or, get?_getD_empty, true_and]
      · simp only [home, if_false, false_and, Option.or_none]

theorem held?_perform (r : Registry) (u : Update) (t : Subject) :
    (r.perform u).held? t = (r.held? t).or (u.declared? t) := by
  cases u with
  | connect c | record key e => cases t <;> exact Option.or_none.symm
  | declare s name => exact held?_declare r s name t

theorem held?_foldl_perform (updates : List Update) (r : Registry) (t : Subject) :
    (updates.foldl perform r).held? t = (r.held? t).or (updates.findSome? (·.declared? t)) := by
  induction updates generalizing r with
  | nil => exact Option.or_none.symm
  | cons u updates ih =>
    rw [List.foldl_cons, ih, held?_perform, Option.or_assoc, List.findSome?_cons]
    cases u.declared? t <;> rfl

theorem get?_describeIn (m : SortedMap String Entry) (id text i : String) :
    ((describeIn m id text).getD m).get? i =
      if i = id then (m.get? i).map fun e => { e with description := text } else m.get? i := by
  unfold describeIn
  cases known : m.get? id with
  | none =>
    by_cases here : i = id
    · subst here
      simp only [Option.map_none, Option.getD_none, known, if_true]
    · simp only [Option.map_none, Option.getD_none, here, if_false]
  | some e =>
    rw [Option.map_some, Option.getD_some, get?_insert]
    by_cases here : i = id
    · subst here
      simp only [if_true, known, Option.map_some]
    · simp only [here, if_false]

theorem held?_describeSubject_component (r : Registry) (text : String) (source : Source)
    (host id : String) (t : Subject) :
    (r.describeSubject text source (.component host id)).1.held? t =
      if t = .component host id then (r.held? t).map fun e => { e with description := text }
      else r.held? t := by
  simp only [describeSubject]
  cases t with
  | boundary i | threat i =>
    simp only [held?, reduceCtorEq, if_false]
    cases r.components.get? host with
    | none => rfl
    | some held =>
      dsimp only
      cases describeIn held id text <;> rfl
  | component b i =>
    simp only [held?, Subject.component.injEq]
    cases home : r.components.get? host with
    | none =>
      by_cases here : b = host
      · subst here
        simp only [home, Option.bind_none, Option.map_none, ite_self]
      · simp only [here, false_and, if_false]
    | some held =>
      have described := get?_describeIn held id text i
      by_cases here : b = host
      · subst here
        simp only [home, Option.bind_some, true_and, ← described]
        cases describeIn held id text with
        | none => simp only [home, Option.bind_some, Option.getD_none]
        | some m => simp only [get?_insert, if_true, Option.bind_some, Option.getD_some]
      · simp only [here, false_and, if_false]
        cases describeIn held id text with
        | none => rfl
        | some m => simp only [get?_insert, here, if_false]

theorem held?_describeSubject (r : Registry) (text : String) (source : Source) (s t : Subject) :
    (r.describeSubject text source s).1.held? t =
      if t = s then (r.held? t).map fun e => { e with description := text } else r.held? t := by
  cases s with
  | boundary id =>
    simp only [describeSubject]
    cases t with
    | boundary i =>
      simp only [held?, Subject.boundary.injEq, ← get?_describeIn]
      cases describeIn r.boundaries id text <;> rfl
    | component b i | threat i =>
      simp only [held?, reduceCtorEq, if_false]
      cases describeIn r.boundaries id text <;> rfl
  | threat id =>
    simp only [describeSubject]
    cases t with
    | threat i =>
      simp only [held?, Subject.threat.injEq, ← get?_describeIn]
      cases describeIn r.threats id text <;> rfl
    | boundary i | component b i =>
      simp only [held?, reduceCtorEq, if_false]
      cases describeIn r.threats id text <;> rfl
  | component host id => exact held?_describeSubject_component r text source host id t

end ThreatModel.Registry
