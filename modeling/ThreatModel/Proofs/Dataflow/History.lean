import Mathlib.Data.List.Nodup
import ThreatModel.Proofs.Dataflow

namespace ThreatModel

open SortedMap

namespace Connection

def keys (c : Connection) : List String :=
  [c.origin.boundary, c.origin.component, c.target.boundary, c.target.component]

end Connection

namespace Dataflow

theorem tryAdd_fst (d : Dataflow) (c : Connection) : (d.tryAdd c).1 = d.add c := by
  unfold tryAdd add
  dsimp only
  congr 1
  rw [upsert_eq_insert, upsert_eq_insert, upsert_eq_insert, insertNew_eq]

theorem tryAdd_snd (d : Dataflow) (c : Connection) :
    (d.tryAdd c).2 = true ↔ d.edge? c.origin c.target = none := by
  simp only [tryAdd, contains, edge?, get?_getD_empty, Option.bind_eq_bind, Option.bind_assoc,
    Bool.not_eq_true', Option.isSome_eq_false_iff, Option.isNone_iff_eq_none]

section Order

variable {ν : Type}

def pathsThrough (onward : ν → List (List String)) (m : SortedMap String ν) : List (List String) :=
  m.entries.flatMap fun e => (onward e.2).map (e.1 :: ·)

theorem pairwise_pathsThrough {onward : ν → List (List String)}
    (ascending : ∀ v, (onward v).Pairwise (· < ·)) (m : SortedMap String ν) :
    (pathsThrough onward m).Pairwise (· < ·) := by
  rw [pathsThrough, List.pairwise_flatMap]
  constructor
  · intro e _
    refine List.pairwise_map.2 ((ascending e.2).imp fun before => ?_)
    exact List.cons_lt_cons_iff.2 (.inr ⟨rfl, before⟩)
  · refine m.sorted.imp fun {a b} before => ?_
    intro p inFirst q inSecond
    obtain ⟨_, _, rfl⟩ := List.mem_map.1 inFirst
    obtain ⟨_, _, rfl⟩ := List.mem_map.1 inSecond
    exact List.cons_lt_cons_iff.2 (.inl before)

theorem pairwise_connections (d : Dataflow) :
    (d.connections.map Connection.keys).Pairwise (· < ·) := by
  have paths : d.connections.map Connection.keys =
      pathsThrough (pathsThrough (pathsThrough (pathsThrough fun _ => [[]]))) d.tree := by
    have last (targets : SortedMap String Edge) :
        pathsThrough (fun _ => [[]]) targets = targets.entries.map fun e => [e.1] :=
      List.map_eq_flatMap.symm
    simp only [connections, funext last]
    simp only [pathsThrough, List.map_flatMap, List.map_map]
    rfl
  -- Each of the four levels only has to know that the one below it ascends.
  rw [paths]
  refine pairwise_pathsThrough (fun _ => pairwise_pathsThrough (fun _ => ?_) _) _
  exact pairwise_pathsThrough (fun _ => pairwise_pathsThrough (fun _ => by simp) _) _

end Order

theorem nodup_connections (d : Dataflow) : d.connections.Nodup := by
  refine (List.pairwise_map.1 d.pairwise_connections).imp fun before same => ?_
  subst same
  exact List.lt_irrefl _ before

theorem count_connections (d : Dataflow) (c : Connection) :
    d.connections.count c = if d.edge? c.origin c.target = some c.edge then 1 else 0 := by
  rw [d.nodup_connections.count]
  simp only [mem_connections]

theorem filter_connections (d : Dataflow) (origin target : Place) :
    (d.connections.filter fun c => c.origin = origin ∧ c.target = target) =
      (d.edge? origin target).toList.map (⟨origin, target, ·⟩) := by
  cases held : d.edge? origin target with
  | none =>
    refine List.filter_eq_nil_iff.2 fun c member here => ?_
    simp only [decide_eq_true_eq] at here
    rw [mem_connections, here.1, here.2, held] at member
    cases member
  | some edge =>
    -- Among the connections listed, the places settle the edge.
    have only : ∀ c ∈ d.connections,
        decide (c.origin = origin ∧ c.target = target) = (c == ⟨origin, target, edge⟩) := by
      intro c member
      rw [mem_connections] at member
      obtain ⟨o, t, e⟩ := c
      by_cases here : o = origin ∧ t = target
      · obtain ⟨rfl, rfl⟩ := here
        obtain rfl := Option.some.inj (held.symm.trans member)
        simp
      · have apart : Connection.mk o t e ≠ ⟨origin, target, edge⟩ := by
          intro same
          cases same
          exact here ⟨rfl, rfl⟩
        simp [here, apart]
    rw [List.filter_congr only, List.filter_beq, count_connections, if_pos held]
    rfl

/-- The tree has no branch besides those that lead to its edges. -/
def IsTight (d : Dataflow) : Prop :=
  ∀ path, d.HasBranch path → ∃ c ∈ d.connections, OnRoute path c.origin c.target

theorem isTight_empty : ({} : Dataflow).IsTight := by
  intro path branch
  match path, branch with
  | [_], branch => simp [HasBranch] at branch
  | [_, _], branch => simp [HasBranch] at branch
  | [_, _, _], branch => simp [HasBranch] at branch

theorem exists_mem_connections_add (d : Dataflow) (c : Connection) :
    ∃ b ∈ (d.add c).connections, b.origin = c.origin ∧ b.target = c.target := by
  refine ⟨⟨c.origin, c.target, (d.edge? c.origin c.target).getD c.edge⟩, ?_, rfl, rfl⟩
  simp [mem_connections, edge?_add]

theorem connections_subset_add (d : Dataflow) (c : Connection) :
    d.connections ⊆ (d.add c).connections := by
  intro b member
  rw [mem_connections] at member ⊢
  rw [edge?_add, member]
  split <;> rfl

theorem IsTight.add {d : Dataflow} (tight : d.IsTight) (c : Connection) : (d.add c).IsTight := by
  intro path branch
  rcases (hasBranch_add d c path).1 branch with old | new
  · obtain ⟨b, member, onRoute⟩ := tight path old
    exact ⟨b, connections_subset_add d c member, onRoute⟩
  · obtain ⟨b, member, origin, target⟩ := exists_mem_connections_add d c
    exact ⟨b, member, by rwa [origin, target]⟩

theorem isTight_foldl_add (cs : List Connection) {d : Dataflow} (tight : d.IsTight) :
    (cs.foldl Dataflow.add d).IsTight := by
  induction cs generalizing d with
  | nil => exact tight
  | cons c cs ih => exact ih (tight.add c)

theorem IsTight.isEmpty_iff {d : Dataflow} (tight : d.IsTight) :
    d.isEmpty = true ↔ d.connections = [] := by
  unfold Dataflow.isEmpty SortedMap.isEmpty
  rw [List.isEmpty_iff]
  constructor
  · intro empty
    rw [connections, empty, List.flatMap_nil]
  · intro empty
    refine List.eq_nil_iff_forall_not_mem.2 fun e member => ?_
    have branch : d.HasBranch [e.1] := by
      rw [HasBranch, get?_eq_some.2 member]
      rfl
    obtain ⟨c, listed, _⟩ := tight [e.1] branch
    rw [empty] at listed
    cases listed

/-- How a diagram came about. -/
inductive History where
  | new
  | add (before : History) (c : Connection)
  | merge (before other : History)

namespace History

def result : History → Dataflow
  | new => {}
  | add before c => (before.result.tryAdd c).1
  | merge before other => before.result.merge other.result

def added : History → List Connection
  | new => []
  | add before c => before.added ++ [c]
  | merge before other => before.added ++ other.added

theorem result_eq (h : History) : h.result = h.added.foldl Dataflow.add {} := by
  induction h with
  | new => rfl
  | add before c ih =>
    rw [result, tryAdd_fst, ih, added, List.foldl_append]
    rfl
  | merge before other ih ih' =>
    -- The other diagram is a fold of additions, and the fold may as well start after the merge.
    have nothing : before.result.merge {} = before.result := rfl
    rw [result, ih', merge_foldl_add, nothing, ih, added, List.foldl_append]

theorem isTight_result (h : History) : h.result.IsTight := by
  rw [result_eq]
  exact isTight_foldl_add h.added isTight_empty

/-- A diagram is a map from pairs of places to edges in which the first connection added stays. It
lists its connections in order, those of connected places once and no others, and is empty exactly
if it lists none. -/
theorem keeps_first (h : History) :
    (∀ origin target, h.result.edge? origin target =
      (h.added.find? fun c => c.origin = origin ∧ c.target = target).map (·.edge)) ∧
    (∀ c, (h.result.tryAdd c).2 = true ↔ h.result.edge? c.origin c.target = none) ∧
    (∀ origin target,
      (h.result.connections.filter fun c => c.origin = origin ∧ c.target = target) =
        (h.result.edge? origin target).toList.map (⟨origin, target, ·⟩)) ∧
    (h.result.connections.map Connection.keys).Pairwise (· < ·) ∧
    (h.result.isEmpty = true ↔ h.result.connections = []) := by
  refine ⟨fun origin target => ?_, tryAdd_snd h.result, filter_connections h.result,
    pairwise_connections h.result, h.isTight_result.isEmpty_iff⟩
  rw [result_eq, edge?_foldl_add]
  rfl

end History

end Dataflow

end ThreatModel
