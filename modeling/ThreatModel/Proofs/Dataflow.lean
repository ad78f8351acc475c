import ThreatModel.Dataflow
import ThreatModel.Proofs.SortedMap

namespace ThreatModel.Dataflow

open SortedMap

theorem edge?_add (d : Dataflow) (c : Connection) (origin target : Place) :
    (d.add c).edge? origin target =
      if origin = c.origin ∧ target = c.target then some ((d.edge? origin target).getD c.edge)
      else d.edge? origin target := by
  obtain ⟨ob, oc⟩ := origin
  obtain ⟨tb, tc⟩ := target
  obtain ⟨⟨cob, coc⟩, ⟨ctb, ctc⟩, edge⟩ := c
  simp only [edge?, add, get?_upsert, Place.mk.injEq, Option.bind_eq_bind]
  by_cases h1 : ob = cob
  · subst h1
    simp only [if_true, Option.bind_some, get?_upsert, true_and]
    by_cases h2 : oc = coc
    · subst h2
      simp only [if_true, Option.bind_some, get?_upsert, true_and]
      by_cases h3 : tb = ctb
      · subst h3
        simp only [if_true, Option.bind_some, get?_insertNew, true_and]
        by_cases h4 : tc = ctc <;> simp [h4, Option.bind_assoc]
      · simp [h3, Option.bind_assoc]
    · simp [h2, Option.bind_assoc]
  · simp [h1]

theorem mem_connections {d : Dataflow} {c : Connection} :
    c ∈ d.connections ↔ d.edge? c.origin c.target = some c.edge := by
  obtain ⟨⟨ob, oc⟩, ⟨tb, tc⟩, edge⟩ := c
  simp only [connections, edge?, List.mem_flatMap, List.mem_map, Prod.exists, Option.bind_eq_bind,
    Option.bind_eq_some_iff, get?_eq_some, Connection.mk.injEq, Place.mk.injEq]
  constructor
  · intro h
    obtain ⟨_, components, held1, _, boundaries, held2, _, targets, held3, _, _, held4,
      ⟨rfl, rfl⟩, ⟨rfl, rfl⟩, rfl⟩ := h
    exact ⟨components, held1, boundaries, held2, targets, held3, held4⟩
  · intro h
    obtain ⟨components, held1, boundaries, held2, targets, held3, held4⟩ := h
    exact ⟨ob, components, held1, oc, boundaries, held2, tb, targets, held3, tc, edge, held4,
      ⟨rfl, rfl⟩, ⟨rfl, rfl⟩, rfl⟩

def route (origin target : Place) : List String :=
  [origin.boundary, origin.component, target.boundary]

/-- Whether the tree goes on after these keys, be it to an edge or not. -/
def HasBranch (d : Dataflow) : List String → Prop
  | [ob] => (d.tree.get? ob).isSome
  | [ob, oc] => ((d.tree.get? ob).bind (·.get? oc)).isSome
  | [ob, oc, tb] => (((d.tree.get? ob).bind (·.get? oc)).bind (·.get? tb)).isSome
  | _ => False

def OnRoute (path : List String) (origin target : Place) : Prop :=
  path ≠ [] ∧ path <+: route origin target

theorem eq_of_isSome_iff {α : Type} {a b : Option α} (present : a.isSome = true ↔ b.isSome = true)
    (same : ∀ x y, a = some x → b = some y → x = y) : a = b := by
  cases a with
  | none => cases b with
    | none => rfl
    | some y => exact absurd (present.2 rfl) Bool.false_ne_true
  | some x => cases b with
    | none => exact absurd (present.1 rfl) Bool.false_ne_true
    | some y => rw [same x y rfl rfl]

theorem ext_branches {d e : Dataflow} (branches : ∀ path, d.HasBranch path ↔ e.HasBranch path)
    (edges : ∀ origin target, d.edge? origin target = e.edge? origin target) : d = e := by
  suffices same : d.tree = e.tree by
    cases d; cases e; cases same; rfl
  refine ext_get? fun ob => eq_of_isSome_iff (branches [ob]) fun ds es dHeld eHeld => ?_
  refine ext_get? fun oc => eq_of_isSome_iff ?_ fun ds2 es2 dHeld2 eHeld2 => ?_
  · simpa [HasBranch, dHeld, eHeld] using branches [ob, oc]
  refine ext_get? fun tb => eq_of_isSome_iff ?_ fun ds3 es3 dHeld3 eHeld3 => ?_
  · simpa [HasBranch, dHeld, eHeld, dHeld2, eHeld2] using branches [ob, oc, tb]
  refine ext_get? fun tc => ?_
  simpa [edge?, dHeld, eHeld, dHeld2, eHeld2, dHeld3, eHeld3] using edges ⟨ob, oc⟩ ⟨tb, tc⟩

theorem hasBranch_add (d : Dataflow) (c : Connection) (path : List String) :
    (d.add c).HasBranch path ↔ d.HasBranch path ∨ OnRoute path c.origin c.target := by
  unfold OnRoute route
  match path with
  | [] => simp [HasBranch]
  | [ob] =>
    by_cases h1 : ob = c.origin.boundary <;> simp [HasBranch, add, get?_upsert, h1]
  | [ob, oc] =>
    by_cases h1 : ob = c.origin.boundary
    · by_cases h2 : oc = c.origin.component <;> simp [HasBranch, add, get?_upsert, h1, h2]
    · simp [HasBranch, add, get?_upsert, h1]
  | [ob, oc, tb] =>
    by_cases h1 : ob = c.origin.boundary
    · by_cases h2 : oc = c.origin.component
      · by_cases h3 : tb = c.target.boundary <;>
          simp [HasBranch, add, get?_upsert, h1, h2, h3, Option.bind_assoc]
      · simp [HasBranch, add, get?_upsert, h1, h2]
    · simp [HasBranch, add, get?_upsert, h1]
  | _ :: _ :: _ :: _ :: _ => simp [HasBranch]

theorem hasBranch_foldl_add (cs : List Connection) (d : Dataflow) (path : List String) :
    (cs.foldl add d).HasBranch path ↔
      d.HasBranch path ∨ ∃ c ∈ cs, OnRoute path c.origin c.target := by
  induction cs generalizing d with
  | nil => simp
  | cons c cs ih =>
    simp only [List.foldl_cons, ih, hasBranch_add, List.mem_cons, or_and_right, exists_or,
      exists_eq_left, or_assoc]

theorem edge?_foldl_add (cs : List Connection) (d : Dataflow) (origin target : Place) :
    (cs.foldl add d).edge? origin target =
      (d.edge? origin target).or
        ((cs.find? fun c => c.origin = origin ∧ c.target = target).map (·.edge)) := by
  induction cs generalizing d with
  | nil => simp
  | cons c cs ih =>
    rw [List.foldl_cons, ih, edge?_add, List.find?_cons]
    by_cases here : c.origin = origin ∧ c.target = target
    · obtain ⟨rfl, rfl⟩ := here
      cases d.edge? c.origin c.target <;> simp
    · have apart : ¬(origin = c.origin ∧ target = c.target) :=
        fun same => here ⟨same.1.symm, same.2.symm⟩
      simp [here, apart]

theorem find?_connections (d : Dataflow) (origin target : Place) :
    (d.connections.find? fun c => c.origin = origin ∧ c.target = target).map (·.edge) =
      d.edge? origin target := by
  cases found : d.connections.find? fun c => c.origin = origin ∧ c.target = target with
  | none =>
    refine (Option.eq_none_iff_forall_ne_some.2 fun edge held => ?_).symm
    have member : ⟨origin, target, edge⟩ ∈ d.connections := mem_connections.2 held
    simpa using List.find?_eq_none.1 found _ member
  | some c =>
    have here : c.origin = origin ∧ c.target = target := by simpa using List.find?_some found
    have held := mem_connections.1 (List.mem_of_find?_eq_some found)
    rw [here.1, here.2] at held
    exact held.symm

theorem edge?_merge (d e : Dataflow) (origin target : Place) :
    (d.merge e).edge? origin target = (d.edge? origin target).or (e.edge? origin target) := by
  rw [merge, edge?_foldl_add, find?_connections]

/-- Of the second diagram only branches that lead to edges are taken over. -/
theorem hasBranch_merge (d e : Dataflow) (path : List String) :
    (d.merge e).HasBranch path ↔
      d.HasBranch path ∨
        ∃ origin target, (e.edge? origin target).isSome ∧ OnRoute path origin target := by
  rw [merge, hasBranch_foldl_add]
  refine or_congr_right ⟨?_, ?_⟩
  · intro h
    obtain ⟨c, member, onRoute⟩ := h
    exact ⟨c.origin, c.target, by rw [mem_connections.1 member]; rfl, onRoute⟩
  · intro h
    obtain ⟨origin, target, held, onRoute⟩ := h
    obtain ⟨edge, held⟩ := Option.isSome_iff_exists.1 held
    exact ⟨⟨origin, target, edge⟩, mem_connections.2 held, onRoute⟩

theorem merge_add (d e : Dataflow) (c : Connection) : d.merge (e.add c) = (d.merge e).add c := by
  refine ext_branches (fun path => ?_) fun origin target => ?_
  · have linked : ∀ origin target, ((e.add c).edge? origin target).isSome = true ↔
        (e.edge? origin target).isSome = true ∨ (origin = c.origin ∧ target = c.target) := by
      intro origin target
      rw [edge?_add]
      by_cases here : origin = c.origin ∧ target = c.target <;> simp [here]
    simp only [hasBranch_merge, hasBranch_add, linked, or_and_right, exists_or, and_assoc,
      exists_and_left, exists_eq_left, or_assoc]
  · simp only [edge?_merge, edge?_add]
    by_cases here : origin = c.origin ∧ target = c.target
    · obtain ⟨rfl, rfl⟩ := here
      cases d.edge? c.origin c.target <;> simp
    · simp [here]

theorem merge_foldl_add (cs : List Connection) (d e : Dataflow) :
    d.merge (cs.foldl add e) = cs.foldl add (d.merge e) := by
  induction cs generalizing e with
  | nil => rfl
  | cons c cs ih => rw [List.foldl_cons, ih, merge_add, List.foldl_cons]

theorem merge_assoc (d e f : Dataflow) : (d.merge e).merge f = d.merge (e.merge f) :=
  (merge_foldl_add f.connections d e).symm

end ThreatModel.Dataflow
