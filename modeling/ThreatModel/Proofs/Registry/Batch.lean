import ThreatModel.Proofs.Registry.RankOrder
import ThreatModel.Proofs.Registry.Uniform

namespace ThreatModel

theorem TagKind.eq_describes_of_rank {kind : TagKind} (last : TagKind.describes.rank ≤ kind.rank) :
    kind = .describes := by
  cases kind with
  | describes => rfl
  | aliases | connects | reviews | mitigates | exposes | transfers | accepts =>
    exact absurd last (by decide)

namespace Registry

theorem contents_applyEach (r : Registry) (tags : List Tag) :
    (r.applyEach tags).1.contents = r.contents + (tags.map contribution).sum := by
  induction tags generalizing r with
  | nil => simp [applyEach]
  | cons tag tags ih =>
    simp only [applyEach, List.map_cons, List.sum_cons]
    rw [ih, contents_apply, add_assoc]

theorem applyEach_append (r : Registry) (early late : List Tag) :
    r.applyEach (early ++ late) =
      (((r.applyEach early).1.applyEach late).1,
        (r.applyEach early).2 ++ ((r.applyEach early).1.applyEach late).2) := by
  induction early generalizing r with
  | nil => rfl
  | cons tag early ih => simp only [List.cons_append, applyEach, ih, List.append_assoc]

theorem errors_applyEach (r : Registry) {tags : List Tag} (h : ∀ tag ∈ tags, tag.kind ≠ .describes) :
    (r.applyEach tags).2 = tags.flatMap fun tag => (({} : Registry).apply tag).2.toList := by
  induction tags generalizing r with
  | nil => rfl
  | cons tag tags ih =>
    simp only [applyEach, List.flatMap_cons]
    rw [ih _ fun later member => h later (List.mem_cons_of_mem _ member),
      error_apply r (h tag List.mem_cons_self)]

theorem contents_applyEach_describes (r : Registry) {tags : List Tag}
    (h : ∀ tag ∈ tags, tag.kind = .describes) : (r.applyEach tags).1.contents = r.contents := by
  induction tags generalizing r with
  | nil => rfl
  | cons tag tags ih =>
    simp only [applyEach]
    rw [ih _ fun later member => h later (List.mem_cons_of_mem _ member)]
    exact contents_apply_describes r (h tag List.mem_cons_self)

theorem errors_applyEach_describes (r s : Registry) {tags : List Tag}
    (h : ∀ tag ∈ tags, tag.kind = .describes) (same : r.contents = s.contents) :
    (r.applyEach tags).2 = tags.flatMap fun tag => (s.apply tag).2.toList := by
  induction tags generalizing r with
  | nil => rfl
  | cons tag tags ih =>
    have kept := contents_apply_describes r (h tag List.mem_cons_self)
    simp only [applyEach, List.flatMap_cons]
    rw [ih _ (fun later member => h later (List.mem_cons_of_mem _ member)) (kept.trans same),
      error_apply_congr same tag]

def isDescription (tag : Tag) : Bool := tag.kind = .describes

theorem inRankOrder_eq (tags : List Tag) :
    inRankOrder tags =
      (inRankOrder tags).filter (fun tag => !isDescription tag) ++
        (inRankOrder tags).filter isDescription := by
  symm
  apply filter_not_append_filter
  refine (sorted_inRankOrder tags).imp fun {s t} le describes => ?_
  have last : s.kind = .describes := of_decide_eq_true describes
  refine decide_eq_true (TagKind.eq_describes_of_rank ?_)
  rw [← last]
  exact le

/-- The errors of a batch: those that texts settle, and those of descriptions in what is registered
by then. -/
theorem errors_applyAll (r : Registry) (tags : List Tag) :
    (r.applyAll tags).2 =
      ((inRankOrder tags).filter fun tag => !isDescription tag).flatMap
          (fun tag => (({} : Registry).apply tag).2.toList) ++
        ((inRankOrder tags).filter isDescription).flatMap
          fun tag => ((r.applyAll tags).1.apply tag).2.toList := by
  generalize early_eq : (inRankOrder tags).filter (fun tag => !isDescription tag) = early
  generalize late_eq : (inRankOrder tags).filter isDescription = late
  have describes : ∀ tag ∈ late, tag.kind = .describes := by
    intro tag member
    rw [← late_eq] at member
    exact of_decide_eq_true (List.mem_filter.1 member).2
  have others : ∀ tag ∈ early, tag.kind ≠ .describes := by
    intro tag member
    rw [← early_eq] at member
    simpa [isDescription] using (List.mem_filter.1 member).2
  have run : r.applyAll tags = r.applyEach (early ++ late) := by
    rw [← early_eq, ← late_eq, ← inRankOrder_eq]
    rfl
  -- descriptions change no contents, so each of them meets those that the batch ends with
  have kept := contents_applyEach_describes (r.applyEach early).1 describes
  rw [run, applyEach_append]
  dsimp only
  rw [errors_applyEach r others, errors_applyEach_describes _ _ describes kept.symm]

/-- The order of a batch shows in no identifier, link or element, and in no error but by its
place. -/
theorem applyAll_perm (r : Registry) {tags others : List Tag} (h : tags.Perm others) :
    (r.applyAll tags).1.contents = (r.applyAll others).1.contents ∧
      (r.applyAll tags).2.Perm (r.applyAll others).2 := by
  have ordered : (inRankOrder tags).Perm (inRankOrder others) :=
    (List.mergeSort_perm tags _).trans (h.trans (List.mergeSort_perm others _).symm)
  have same : (r.applyAll tags).1.contents = (r.applyAll others).1.contents := by
    unfold applyAll
    rw [contents_applyEach, contents_applyEach, (ordered.map contribution).sum_eq]
  refine ⟨same, ?_⟩
  rw [errors_applyAll r tags, errors_applyAll r others]
  apply List.Perm.append
  · exact (ordered.filter _).flatMap_right _
  · have errors : (fun tag => ((r.applyAll tags).1.apply tag).2.toList) =
        fun tag => ((r.applyAll others).1.apply tag).2.toList := by
      funext tag
      rw [error_apply_congr same tag]
    rw [errors]
    exact (ordered.filter _).flatMap_right _

def sampleBatch : List Tag :=
  [⟨.describes, "@describe threat @leak as secrets in the log", { line := 1 }⟩,
   ⟨.exposes, "@exposes @app:@log to leak with debug output", { line := 2 }⟩,
   ⟨.describes, "@describe threat @theft as a stolen key", { line := 3 }⟩,
   ⟨.mitigates, "@mitigates ___:@log against leak with filters", { line := 4 }⟩]

/-- In either order one threat is registered and described, one element recorded, and the two other
tags fail. -/
theorem applyAll_reverse_sampleBatch :
    sampleBatch.reverse.Perm sampleBatch ∧
      (({} : Registry).applyAll sampleBatch.reverse).1.contents =
        (({} : Registry).applyAll sampleBatch).1.contents ∧
      (({} : Registry).applyAll sampleBatch.reverse).2.Perm
        (({} : Registry).applyAll sampleBatch).2 ∧
      ∀ tags ∈ [sampleBatch, sampleBatch.reverse],
        (({} : Registry).applyAll tags).1.threats =
            (∅ : SortedMap _ _).insert "@leak"
              { name := "leak", description := "secrets in the log" } ∧
          (({} : Registry).applyAll tags).1.elements.exposures.keys = ["@debug_output"] ∧
          (({} : Registry).applyAll tags).1.elementCount = 1 ∧
          (({} : Registry).applyAll tags).2 =
            [.emptyIdentifier .boundary "___", .unknownEntry .threat "@theft" { line := 3 }] := by
  have reordered : sampleBatch.reverse.Perm sampleBatch := List.reverse_perm sampleBatch
  have order : inRankOrder sampleBatch =
      [sampleBatch[1], sampleBatch[3], sampleBatch[0], sampleBatch[2]] := by
    rw [inRankOrder_eq_filters]
    rfl
  have turned : inRankOrder sampleBatch.reverse =
      [sampleBatch[3], sampleBatch[1], sampleBatch[2], sampleBatch[0]] := by
    rw [inRankOrder_eq_filters]
    rfl
  obtain ⟨contents, errors⟩ := applyAll_perm {} reordered
  refine ⟨reordered, contents, errors, fun tags given => ?_⟩
  rcases List.mem_pair.1 given with rfl | rfl
  · rw [applyAll, order]
    decide +kernel
  · rw [applyAll, turned]
    decide +kernel

end Registry

end ThreatModel
