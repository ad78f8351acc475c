import Mathlib.Algebra.BigOperators.Group.List.Basic
import Mathlib.Algebra.Order.Group.Multiset
import Mathlib.Data.Set.Basic
import ThreatModel.Proofs.Dataflow
import ThreatModel.Proofs.Registry.Plan

namespace ThreatModel

@[ext]
structure Contents where
  boundaries : Set String
  /-- The boundaries under which components are kept, declared or not. -/
  hosts : Set String
  places : Set Place
  threats : Set String
  links : Set (Place × Place)
  /-- The elements under each key, if the key is there at all. -/
  stances : StanceKind → String → Option (Multiset Stance)
  reviews : String → Option (Multiset Review)

namespace Contents

instance : Zero Contents := ⟨⟨∅, ∅, ∅, ∅, ∅, fun _ _ => none, fun _ => none⟩⟩

instance : Add Contents where
  add a b := {
    boundaries := a.boundaries ∪ b.boundaries
    hosts := a.hosts ∪ b.hosts
    places := a.places ∪ b.places
    threats := a.threats ∪ b.threats
    links := a.links ∪ b.links
    stances := fun kind key => (a.stances kind key).merge (· + ·) (b.stances kind key)
    reviews := fun key => (a.reviews key).merge (· + ·) (b.reviews key) }

theorem add_def (a b : Contents) : a + b = {
    boundaries := a.boundaries ∪ b.boundaries
    hosts := a.hosts ∪ b.hosts
    places := a.places ∪ b.places
    threats := a.threats ∪ b.threats
    links := a.links ∪ b.links
    stances := fun kind key => (a.stances kind key).merge (· + ·) (b.stances kind key)
    reviews := fun key => (a.reviews key).merge (· + ·) (b.reviews key) } := rfl

theorem zero_def : (0 : Contents) = ⟨∅, ∅, ∅, ∅, ∅, fun _ _ => none, fun _ => none⟩ := rfl

theorem merge_comm {α : Type} (a b : Option (Multiset α)) :
    a.merge (· + ·) b = b.merge (· + ·) a := by
  cases a <;> cases b <;> simp [add_comm]

theorem merge_assoc {α : Type} (a b c : Option (Multiset α)) :
    (a.merge (· + ·) b).merge (· + ·) c = a.merge (· + ·) (b.merge (· + ·) c) := by
  cases a <;> cases b <;> cases c <;> simp [add_assoc]

instance : AddCommMonoid Contents where
  add_assoc a b c := by simp only [add_def, Set.union_assoc, merge_assoc]
  zero_add a := by simp only [add_def, zero_def, Set.empty_union, Option.merge_none_left]
  add_zero a := by simp only [add_def, zero_def, Set.union_empty, Option.merge_none_right]
  add_comm a b := by
    simp only [add_def]
    congr 1
    · exact Set.union_comm _ _
    · exact Set.union_comm _ _
    · exact Set.union_comm _ _
    · exact Set.union_comm _ _
    · exact Set.union_comm _ _
    · funext kind key
      exact merge_comm _ _
    · funext key
      exact merge_comm _ _
  nsmul := nsmulRec

end Contents

namespace Registry

def contents (r : Registry) : Contents where
  boundaries := {id | r.boundaries.contains id}
  hosts := {id | r.components.contains id}
  places := {p | ∃ held, r.components.get? p.boundary = some held ∧ held.contains p.component}
  threats := {id | r.threats.contains id}
  links := {l | (r.dataflow.edge? l.1 l.2).isSome}
  stances := fun kind key => ((r.elements.stances kind).get? key).map Multiset.ofList
  reviews := fun key => (r.elements.reviews.get? key).map Multiset.ofList

theorem contents_empty : ({} : Registry).contents = 0 := by
  refine Contents.ext ?_ ?_ ?_ ?_ ?_ ?_ ?_
  · exact Set.eq_empty_of_forall_notMem fun _ known => Bool.false_ne_true known
  · exact Set.eq_empty_of_forall_notMem fun _ known => Bool.false_ne_true known
  · refine Set.eq_empty_of_forall_notMem fun _ ⟨_, held, _⟩ => ?_
    cases held
  · exact Set.eq_empty_of_forall_notMem fun _ known => Bool.false_ne_true known
  · exact Set.eq_empty_of_forall_notMem fun _ known => Bool.false_ne_true known
  · funext kind key
    cases kind <;> rfl
  · rfl

def Update.contents : Update → Contents
  | .declare (.boundary id) _ => { (0 : Contents) with boundaries := {id} }
  | .declare (.component boundary id) _ =>
    { (0 : Contents) with hosts := {boundary}, places := {⟨boundary, id⟩} }
  | .declare (.threat id) _ => { (0 : Contents) with threats := {id} }
  | .connect c => { (0 : Contents) with links := {(c.origin, c.target)} }
  | .record key (.stance kind s) => { (0 : Contents) with
      stances := fun k i => if k = kind ∧ i = key then some {s} else none }
  | .record key (.review review) => { (0 : Contents) with
      reviews := fun i => if i = key then some {review} else none }

theorem known_insertNew (m : SortedMap String Entry) (id : String) (e : Entry) :
    {i | (m.insertNew id e).contains i = true} = {i | m.contains i = true} ∪ {id} := by
  ext i
  simp only [Set.mem_ofPred_eq, Set.mem_union, SortedMap.contains_insertNew, Bool.or_eq_true,
    decide_eq_true_eq, Set.mem_singleton_iff, or_comm]

theorem contents_declare (r : Registry) (subject : Subject) (name : String) :
    (r.perform (.declare subject name)).contents =
      r.contents + Update.contents (.declare subject name) := by
  cases subject with
  | boundary id | threat id =>
    simp only [perform, contents, known_insertNew, Update.contents, Contents.add_def,
      Contents.zero_def, Set.union_empty, Option.merge_none_right]
  | component boundary id =>
    have hosts : {b | (r.components.upsert boundary fun held =>
          (held.getD ∅).insertNew id { name }).contains b = true} =
        {b | r.components.contains b = true} ∪ {boundary} := by
      ext b
      unfold SortedMap.contains
      by_cases same : b = boundary <;> simp [SortedMap.get?_upsert, same]
    have places : {p : Place | ∃ held, (r.components.upsert boundary fun held =>
          (held.getD ∅).insertNew id { name }).get? p.boundary = some held ∧
            held.contains p.component = true} =
        {p | ∃ held, r.components.get? p.boundary = some held ∧
          held.contains p.component = true} ∪ {⟨boundary, id⟩} := by
      ext ⟨b, c⟩
      by_cases same : b = boundary
      · subst same
        cases held : r.components.get? b <;>
          simp [SortedMap.get?_upsert, SortedMap.contains_insertNew, held, or_comm]
      · simp [SortedMap.get?_upsert, same]
    simp only [perform, contents, hosts, places, Update.contents, Contents.add_def,
      Contents.zero_def, Set.union_empty, Option.merge_none_right]

theorem contents_connect (r : Registry) (c : Connection) :
    (r.perform (.connect c)).contents = r.contents + Update.contents (.connect c) := by
  have links : {l : Place × Place | ((r.dataflow.add c).edge? l.1 l.2).isSome = true} =
      {l | (r.dataflow.edge? l.1 l.2).isSome = true} ∪ {(c.origin, c.target)} := by
    ext ⟨o, t⟩
    by_cases same : o = c.origin ∧ t = c.target <;> simp [Dataflow.edge?_add, same]
  simp only [perform, contents, links, Update.contents, Contents.add_def, Contents.zero_def,
    Set.union_empty, Option.merge_none_right]

theorem counted_push {α : Type} (held : Option (List α)) (x : α) :
    (some (held.getD [] ++ [x])).map Multiset.ofList =
      (held.map Multiset.ofList).merge (· + ·) (some {x}) := by
  cases held <;> rfl

theorem contents_record (r : Registry) (key : String) (e : Element) :
    (r.perform (.record key e)).contents = r.contents + Update.contents (.record key e) := by
  cases e with
  | stance kind s =>
    have counted : (fun k i => (((r.elements.addStance kind key s).stances k).get? i).map
          Multiset.ofList) =
        fun k i => (((r.elements.stances k).get? i).map Multiset.ofList).merge (· + ·)
          (if k = kind ∧ i = key then some {s} else none) := by
      funext k i
      rw [Elements.get?_stances_addStance]
      split
      · exact counted_push _ _
      · exact Option.merge_none_right.symm
    simp only [perform, Elements.record, contents, counted, Elements.reviews_addStance,
      Update.contents, Contents.add_def, Contents.zero_def, Set.union_empty,
      Option.merge_none_right]
  | review review =>
    have counted : (fun i => ((r.elements.addReview key review).reviews.get? i).map
          Multiset.ofList) =
        fun i => ((r.elements.reviews.get? i).map Multiset.ofList).merge (· + ·)
          (if i = key then some {review} else none) := by
      funext i
      rw [Elements.get?_reviews_addReview]
      split
      · exact counted_push _ _
      · exact Option.merge_none_right.symm
    simp only [perform, Elements.record, contents, counted, Elements.stances_addReview,
      Update.contents, Contents.add_def, Contents.zero_def, Set.union_empty,
      Option.merge_none_right]

theorem contents_perform (r : Registry) (u : Update) :
    (r.perform u).contents = r.contents + u.contents := by
  cases u with
  | declare subject name => exact contents_declare r subject name
  | connect c => exact contents_connect r c
  | record key e => exact contents_record r key e

theorem contents_foldl_perform (updates : List Update) (r : Registry) :
    (updates.foldl perform r).contents = r.contents + (updates.map Update.contents).sum := by
  induction updates generalizing r with
  | nil => simp
  | cons u updates ih =>
    rw [List.foldl_cons, ih, contents_perform, List.map_cons, List.sum_cons, add_assoc]

end Registry

end ThreatModel
