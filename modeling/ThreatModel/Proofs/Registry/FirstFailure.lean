import ThreatModel.CommandLine.Run
import ThreatModel.Proofs.Registry.Batch

namespace ThreatModel.Registry

/-- A batch, applied tag by tag, fails at `tag` for the first time, with the error `e`, and is in the
state `s` by then. -/
structure FailsFirst (r : Registry) (batch before : List Tag) (tag : Tag) (after : List Tag)
    (s : Registry) (e : TagError) : Prop where
  split : batch = before ++ tag :: after
  clean : (r.applyEach before).2 = []
  reached : r.applyEach (before ++ [tag]) = (s, [e])

namespace FailsFirst

variable {r s t : Registry} {tag failed : Tag} {batch before after : List Tag} {e : TagError}

theorem head (step : r.apply tag = (s, some e)) : FailsFirst r (tag :: after) [] tag after s e where
  split := rfl
  clean := rfl
  reached := by simp [applyEach, step]

theorem cons (step : r.apply tag = (s, none)) (later : FailsFirst s batch before failed after t e) :
    FailsFirst r (tag :: batch) (tag :: before) failed after t e where
  split := congrArg (tag :: ·) later.split
  clean := by simp [applyEach, step, later.clean]
  reached := by simp [applyEach, step, later.reached]

theorem applyEach_eq (fails : FailsFirst r batch before tag after s e) :
    r.applyEach batch = ((s.applyEach after).1, e :: (s.applyEach after).2) := by
  have parts : batch = (before ++ [tag]) ++ after := by simp [fails.split]
  rw [parts, applyEach_append, fails.reached]
  rfl

end FailsFirst

/-- A batch that stops gets to the end without errors, or as far as the first tag that fails. -/
theorem applyUntilError_cases (r : Registry) (batch : List Tag) :
    (∃ s, r.applyUntilError batch = (s, none) ∧ r.applyEach batch = (s, [])) ∨
      ∃ before tag after s e, r.applyUntilError batch = (s, some e) ∧
        FailsFirst r batch before tag after s e := by
  induction batch generalizing r with
  | nil => exact .inl ⟨r, rfl, rfl⟩
  | cons tag batch ih =>
    rcases step : r.apply tag with ⟨s, _ | e⟩
    · rcases ih s with ⟨t, stopped, collected⟩ | ⟨before, failed, after, t, e, stopped, fails⟩
      · refine .inl ⟨t, ?_, ?_⟩
        · simp [applyUntilError, step, stopped]
        · simp [applyEach, step, collected]
      · refine .inr ⟨tag :: before, failed, after, t, e, ?_, fails.cons step⟩
        simp [applyUntilError, step, stopped]
    · refine .inr ⟨[], tag, batch, s, e, ?_, .head step⟩
      simp [applyUntilError, step]

open CommandLine

/-- Strict mode succeeds exactly when no tag of the batch fails, and then with the same registry.
Otherwise it reports the first error of the batch, and leaves the registry as it is just after the
tag that fails first. -/
theorem applyTags_strict (r : Registry) (tags : List Tag) :
    ((∃ s, applyTags r tags true = .ok s) ↔ (r.applyAll tags).2 = []) ∧
    (∀ s, applyTags r tags true = .ok s →
      r.applyAllStrict tags = (s, none) ∧ (r.applyAll tags).1 = s) ∧
    ∀ e, applyTags r tags true = .error e → ∃ before tag after s first, e = .tag first ∧
      r.applyAllStrict tags = (s, some first) ∧ (r.applyAll tags).2.head? = some first ∧
      FailsFirst r (inRankOrder tags) before tag after s first := by
  simp only [applyTags, if_true, applyAllStrict]
  rcases applyUntilError_cases r (inRankOrder tags) with
    ⟨s, stopped, collected⟩ | ⟨before, tag, after, s, e, stopped, fails⟩
  · have all : r.applyAll tags = (s, []) := collected
    simp [stopped, all]
  · have all : (r.applyAll tags).2 = e :: (s.applyEach after).2 :=
      congrArg Prod.snd fails.applyEach_eq
    simp only [stopped, all]
    refine ⟨by simp, by simp, ?_⟩
    intro error same
    cases same
    exact ⟨before, tag, after, s, e, rfl, rfl, rfl, fails⟩

def haltingBatch : List Tag :=
  [⟨.describes, "@describe threat @theft as a stolen key", { line := 1 }⟩,
   ⟨.reviews, "@review Shop:... what is this?", { line := 2 }⟩,
   ⟨.aliases, "@alias boundary @web to Web shop", { line := 3 }⟩]

theorem applyTags_haltingBatch :
    (∃ s, applyTags {} [haltingBatch[2]] true = .ok s ∧
      (({} : Registry).applyAll [haltingBatch[2]]).1 = s) ∧
    applyTags {} haltingBatch true = .error (.tag (.emptyIdentifier .component "...")) ∧
    ∃ before tag after s, s.boundaries.contains "@shop" = true ∧
      (({} : Registry).applyAll haltingBatch).2.head? =
        some (.emptyIdentifier .component "...") ∧
      FailsFirst {} (inRankOrder haltingBatch) before tag after s
        (.emptyIdentifier .component "...") := by
  have order : inRankOrder haltingBatch = [haltingBatch[2], haltingBatch[1], haltingBatch[0]] := by
    rw [inRankOrder_eq_filters]
    rfl
  have stops : (({} : Registry).applyAllStrict haltingBatch).2 =
      some (.emptyIdentifier .component "...") := by
    rw [applyAllStrict, order]
    decide +kernel
  have left : (({} : Registry).applyAllStrict haltingBatch).1.boundaries.contains "@shop" = true := by
    rw [applyAllStrict, order]
    decide +kernel
  have clean : (({} : Registry).applyAll [haltingBatch[2]]).2 = [] := by
    rw [applyAll, inRankOrder, List.mergeSort_singleton]
    decide +kernel
  obtain ⟨succeeds, same, _⟩ := applyTags_strict {} [haltingBatch[2]]
  obtain ⟨s, done⟩ := succeeds.2 clean
  have failed : applyTags {} haltingBatch true =
      .error (.tag (.emptyIdentifier .component "...")) := by
    rcases ended : ({} : Registry).applyAllStrict haltingBatch with ⟨t, error?⟩
    rw [ended] at stops
    subst stops
    simp [applyTags, ended]
  refine ⟨⟨s, done, (same s done).2⟩, failed, ?_⟩
  obtain ⟨before, tag, after, t, first, named, ended, found, fails⟩ :=
    (applyTags_strict {} haltingBatch).2.2 _ failed
  cases named
  rw [ended] at left
  exact ⟨before, tag, after, t, left, found, fails⟩

end ThreatModel.Registry
