import ThreatModel.Registry.Apply

namespace ThreatModel.Registry

theorem filter_not_append_filter {α : Type} {p : α → Bool} {xs : List α}
    (h : xs.Pairwise fun a b => p a = true → p b = true) :
    xs.filter (fun a => !p a) ++ xs.filter p = xs := by
  induction xs with
  | nil => rfl
  | cons a xs ih =>
    have ⟨first, later⟩ := List.pairwise_cons.1 h
    cases here : p a with
    | false => simp [here, ih later]
    | true =>
      have all : ∀ b ∈ xs, p b = true := fun b member => first b member here
      simpa [here, List.filter_eq_self.2 all, List.filter_eq_nil_iff] using all

theorem mem_inRankOrder {tags : List Tag} {tag : Tag} : tag ∈ inRankOrder tags ↔ tag ∈ tags :=
  (List.mergeSort_perm tags _).mem_iff

theorem sorted_inRankOrder (tags : List Tag) :
    (inRankOrder tags).Pairwise fun s t => s.kind.rank ≤ t.kind.rank := by
  have sorted : (inRankOrder tags).Pairwise fun s t => decide (s.kind.rank ≤ t.kind.rank) = true :=
    List.pairwise_mergeSort (fun a b c => by simpa using Nat.le_trans)
      (fun a b => by simpa using Nat.le_total _ _) tags
  exact sorted.imp of_decide_eq_true

theorem filter_inRankOrder (tags : List Tag) (rank : Nat) :
    (inRankOrder tags).filter (fun tag => tag.kind.rank = rank) =
      tags.filter fun tag => tag.kind.rank = rank := by
  generalize group_eq : tags.filter (fun tag => tag.kind.rank = rank) = group
  have alike : ∀ tag ∈ group, tag.kind.rank = rank := by
    intro tag member
    rw [← group_eq] at member
    simpa using (List.mem_filter.1 member).2
  have ordered : group.Pairwise fun s t => decide (s.kind.rank ≤ t.kind.rank) = true := by
    refine List.pairwise_of_forall_mem_list fun s first t second => ?_
    simp [alike s first, alike t second]
  have inside : group.Sublist (inRankOrder tags) :=
    List.sublist_mergeSort (fun a b c => by simpa using Nat.le_trans)
      (fun a b => by simpa using Nat.le_total _ _) ordered
      (group_eq ▸ List.filter_sublist)
  have kept : group.filter (fun tag => tag.kind.rank = rank) = group :=
    List.filter_eq_self.2 fun tag member => by simpa using alike tag member
  have sub := inside.filter fun tag => decide (tag.kind.rank = rank)
  rw [kept] at sub
  refine (sub.eq_of_length ?_).symm
  rw [← group_eq]
  exact ((List.mergeSort_perm tags _).filter _).length_eq.symm

theorem filter_rank_lt_succ {tags : List Tag}
    (sorted : tags.Pairwise fun s t => s.kind.rank ≤ t.kind.rank) (rank : Nat) :
    tags.filter (fun tag => tag.kind.rank < rank + 1) =
      tags.filter (fun tag => tag.kind.rank < rank) ++
        tags.filter fun tag => tag.kind.rank = rank := by
  have split := filter_not_append_filter (p := fun tag : Tag => rank ≤ tag.kind.rank)
    ((sorted.filter fun tag => tag.kind.rank < rank + 1).imp
      fun le above => decide_eq_true (Nat.le_trans (of_decide_eq_true above) le))
  rw [← split, List.filter_filter, List.filter_filter]
  congr 1
  · refine List.filter_congr fun tag _ => ?_
    rw [Bool.eq_iff_iff]
    simp
    omega
  · refine List.filter_congr fun tag _ => ?_
    rw [Bool.eq_iff_iff]
    simp
    omega

/-- Names are given first and descriptions last; else a batch keeps its order. -/
theorem inRankOrder_eq_filters (tags : List Tag) :
    inRankOrder tags =
      tags.filter (fun tag => tag.kind.rank = 0) ++ tags.filter (fun tag => tag.kind.rank = 1) ++
        tags.filter fun tag => tag.kind.rank = 2 := by
  have sorted := sorted_inRankOrder tags
  have all : (inRankOrder tags).filter (fun tag => tag.kind.rank < 3) = inRankOrder tags := by
    refine List.filter_eq_self.2 fun tag _ => ?_
    cases tag.kind <;> rfl
  rw [← all, filter_rank_lt_succ sorted, filter_rank_lt_succ sorted, filter_rank_lt_succ sorted]
  simp [filter_inRankOrder]

theorem inRankOrder_append {early late : List Tag} (noDescription : ∀ tag ∈ early, tag.kind.rank < 2)
    (middle : ∀ tag ∈ late, tag.kind.rank = 1) :
    inRankOrder (early ++ late) = inRankOrder early ++ inRankOrder late := by
  have last : early.filter (fun tag => tag.kind.rank = 2) = [] := by
    refine List.filter_eq_nil_iff.2 fun tag member => ?_
    have rank := noDescription tag member
    simpa using Nat.ne_of_lt rank
  have first : late.filter (fun tag => tag.kind.rank = 0) = [] := by
    refine List.filter_eq_nil_iff.2 fun tag member => ?_
    simp [middle tag member]
  simp only [inRankOrder_eq_filters, List.filter_append, last, first, List.nil_append,
    List.append_nil, List.append_assoc]

end ThreatModel.Registry
