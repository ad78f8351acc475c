import ThreatModel.Proofs.Document.Merge
import ThreatModel.Proofs.Registry.Batch

namespace ThreatModel

theorem Elements.merge_record (es fs : Elements) (key : String) (e : Element) :
    es.merge (fs.record key e) = (es.merge fs).record key e := by
  cases e with
  | stance kind s => cases kind <;> simp [record, addStance, merge, SortedMap.mergeWith_push]
  | review review => simp [record, addReview, merge, SortedMap.mergeWith_push]

namespace Registry

/-- Both registries together; what both hold is kept as the first has it. -/
def join (r s : Registry) : Registry where
  created := Timestamps.earliest r.created s.created
  updated := max r.updated s.updated
  boundaries := r.boundaries.union s.boundaries
  components := r.components.mergeWith SortedMap.union s.components
  threats := r.threats.union s.threats
  dataflow := r.dataflow.merge s.dataflow
  elements := r.elements.merge s.elements

theorem toDocument_join (r s : Registry) (project : String) :
    (r.join s).toDocument project = (r.toDocument project).merge (s.toDocument project) := by
  simp only [toDocument, Document.merge, join, Timestamps.merge, SortedMap.mergeWith_insert_insert]

/-- A change to the second registry shows in both together as the same change. -/
theorem join_perform (r s : Registry) (u : Update) :
    r.join (s.perform u) = (r.join s).perform u := by
  cases u with
  | declare subject name =>
    cases subject with
    | boundary id => simp only [perform, join, SortedMap.union_insertNew]
    | threat id => simp only [perform, join, SortedMap.union_insertNew]
    | component boundary id =>
      simp only [perform, join, Registry.mk.injEq, true_and, and_true]
      apply SortedMap.mergeWith_upsert
      cases r.components.get? boundary <;> cases s.components.get? boundary <;>
        simp [SortedMap.union_insertNew]
  | connect c => simp only [perform, join, Dataflow.merge_add]
  | record key e => simp only [perform, join, Elements.merge_record]

theorem join_foldl_perform (updates : List Update) (r s : Registry) :
    r.join (updates.foldl perform s) = updates.foldl perform (r.join s) := by
  induction updates generalizing s with
  | nil => rfl
  | cons u updates ih => rw [List.foldl_cons, ih, join_perform, List.foldl_cons]

theorem join_fresh (r : Registry) :
    r.join { created := r.created, updated := r.updated } = r := by
  have created : Timestamps.earliest r.created r.created = r.created := by
    unfold Timestamps.earliest
    split <;> simp
  simp only [join, created, max_self, SortedMap.union_empty, SortedMap.mergeWith_empty]
  rfl

/-- Without descriptions, and with all other names given in the first part, tags in two parts leave
the same document together as apart and merged, whichever of them fail. -/
theorem toDocument_applyAll_append (created updated : Int) (project : String) {early late : List Tag}
    (undescribed : ∀ tag ∈ early ++ late, tag.kind ≠ .describes)
    (unnamed : ∀ tag ∈ late, tag.kind ≠ .aliases) :
    ((({ created, updated } : Registry).applyAll (early ++ late)).1.toDocument project) =
      ((({ created, updated } : Registry).applyAll early).1.toDocument project).merge
        ((({ created, updated } : Registry).applyAll late).1.toDocument project) := by
  have early_rank : ∀ tag ∈ early, tag.kind.rank < 2 := by
    intro tag member
    have kind := undescribed tag (List.mem_append_left _ member)
    cases h : tag.kind <;> simp_all [TagKind.rank]
  have late_rank : ∀ tag ∈ late, tag.kind.rank = 1 := by
    intro tag member
    have kind := undescribed tag (List.mem_append_right _ member)
    have other := unnamed tag member
    cases h : tag.kind <;> simp_all [TagKind.rank]
  have others : ∀ tags : List Tag, (∀ tag ∈ tags, tag.kind ≠ .describes) →
      ∀ tag ∈ inRankOrder tags, tag.kind ≠ .describes :=
    fun tags h tag member => h tag ((List.mergeSort_perm tags _).mem_iff.1 member)
  obtain ⟨us, errors, first⟩ := planned_applyEach
    (others early fun tag member => undescribed tag (List.mem_append_left _ member))
  obtain ⟨vs, errors', second⟩ := planned_applyEach
    (others late fun tag member => undescribed tag (List.mem_append_right _ member))
  have ⟨same_created, same_updated⟩ := times_foldl_perform us { created, updated }
  have restart := join_fresh (us.foldl perform { created, updated })
  rw [same_created, same_updated] at restart
  rw [← toDocument_join]
  congr 1
  simp only [applyAll]
  rw [inRankOrder_append early_rank late_rank, applyEach_append, first, second, second]
  -- the changes of the second part happen behind what the first part leaves
  dsimp only at restart ⊢
  rw [join_foldl_perform, restart]

def sampleFront : List Tag :=
  [⟨.exposes, "@exposes Web:App to XSS with raw output", { line := 1 }⟩,
   ⟨.connects, "@connects @web:@app to @web:@db as sql", { line := 2 }⟩,
   ⟨.aliases, "@alias boundary @web to Web frontend", { line := 3 }⟩]

/-- The last of these tags fails after it has registered a boundary. -/
def sampleBack : List Tag :=
  [⟨.exposes, "@exposes web:Log to xss with raw output", { line := 4 }⟩,
   ⟨.connects, "@connects @web:@app with @web:@db", { line := 5 }⟩,
   ⟨.reviews, "@review Ops:-- unclear", { line := 6 }⟩]

theorem toDocument_sampleFront_sampleBack :
    (∀ tag ∈ sampleFront ++ sampleBack, tag.kind ≠ .describes) ∧
    (∀ tag ∈ sampleBack, tag.kind ≠ .aliases) ∧
    (({ created := 5, updated := 5 } : Registry).applyAll (sampleFront ++ sampleBack)).1.toDocument
        "shop" =
      ((({ created := 5, updated := 5 } : Registry).applyAll sampleFront).1.toDocument "shop").merge
        ((({ created := 5, updated := 5 } : Registry).applyAll sampleBack).1.toDocument "shop") ∧
    ∃ d, (({ created := 5, updated := 5 } : Registry).applyAll
        (sampleFront ++ sampleBack)).1.toDocument "shop" = d ∧
      d.boundaries.entries = [("@ops", { name := "Ops" }), ("@web", { name := "Web frontend" })] ∧
      d.components.keys = ["@web"] ∧
      d.threats.entries = [("@xss", { name := "XSS" })] ∧
      d.dataflow.connections.map (fun c => (c.origin, c.target, c.edge.label)) =
        [(⟨"@web", "@app"⟩, ⟨"@web", "@db"⟩, some "sql")] ∧
      (d.projects.get? "shop").map (·.exposures.values.map (·.map (·.source.line))) =
        some [[1, 4]] := by
  have undescribed : ∀ tag ∈ sampleFront ++ sampleBack, tag.kind ≠ .describes := by decide
  have unnamed : ∀ tag ∈ sampleBack, tag.kind ≠ .aliases := by decide
  have order : inRankOrder (sampleFront ++ sampleBack) =
      [sampleFront[2], sampleFront[0], sampleFront[1], sampleBack[0], sampleBack[1],
        sampleBack[2]] := by
    rw [inRankOrder_eq_filters]
    rfl
  refine ⟨undescribed, unnamed, toDocument_applyAll_append 5 5 "shop" undescribed unnamed, _, rfl, ?_⟩
  rw [applyAll, order]
  decide +kernel

end Registry

end ThreatModel
