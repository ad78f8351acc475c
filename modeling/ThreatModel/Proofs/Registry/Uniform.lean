import ThreatModel.Proofs.Registry.Contents

namespace ThreatModel.Registry

theorem uniform_apply {tag : Tag} (h : tag.kind ≠ .describes) :
    ∃ extra error?, ∀ r, (apply r tag).1.contents = r.contents + extra ∧
      (apply r tag).2 = error? := by
  obtain ⟨updates, error?, done⟩ := planned_apply tag h
  dsimp only at done
  refine ⟨(updates.map Update.contents).sum, error?, fun r => ?_⟩
  rw [done r]
  exact ⟨contents_foldl_perform updates r, rfl⟩

theorem contains_describeIn {m described : SortedMap String Entry} {id text : String}
    (h : describeIn m id text = some described) (i : String) :
    described.contains i = m.contains i := by
  simp only [describeIn, Option.map_eq_some_iff] at h
  obtain ⟨e, held, rfl⟩ := h
  rw [SortedMap.contains_insert]
  by_cases here : i = id
  · subst here
    simp [SortedMap.contains, held]
  · simp [here]

theorem describeIn_eq_none {m : SortedMap String Entry} {id text : String} :
    describeIn m id text = none ↔ m.contains id = false := by
  simp [describeIn, SortedMap.contains]

theorem contains_of_describeIn {m described : SortedMap String Entry} {id text : String}
    (h : describeIn m id text = some described) : m.contains id = true := by
  cases known : m.contains id with
  | true => rfl
  | false => rw [describeIn_eq_none.2 known] at h; cases h

theorem contents_describeSubject (r : Registry) (text : String) (source : Source)
    (subject : Subject) : (r.describeSubject text source subject).1.contents = r.contents := by
  cases subject with
  | boundary id =>
    simp only [describeSubject]
    split
    · rfl
    · rename_i described h
      simp only [contents, contains_describeIn h]
  | component b id =>
    simp only [describeSubject]
    split
    · rfl
    · rename_i held known
      split
      · rfl
      · rename_i described h
        have hosts : ∀ i, (r.components.insert b described).contains i = r.components.contains i := by
          intro i
          rw [SortedMap.contains_insert]
          by_cases here : i = b
          · subst here
            simp [SortedMap.contains, known]
          · simp [here]
        have places : ∀ p : Place, (∃ inner, (r.components.insert b described).get? p.boundary =
              some inner ∧ inner.contains p.component = true) ↔
            ∃ inner, r.components.get? p.boundary = some inner ∧
              inner.contains p.component = true := by
          intro p
          rw [SortedMap.get?_insert]
          by_cases here : p.boundary = b
          · simp [here, known, contains_describeIn h]
          · simp [here]
        simp only [contents, hosts, places]
  | threat id =>
    simp only [describeSubject]
    split
    · rfl
    · rename_i described h
      simp only [contents, contains_describeIn h]

open Classical in
noncomputable def missing (c : Contents) (source : Source) : Subject → Option TagError
  | .boundary id => if id ∈ c.boundaries then none else some (.unknownEntry .boundary id source)
  | .component b id =>
    if b ∈ c.hosts then
      if ⟨b, id⟩ ∈ c.places then none else some (.unknownEntry .component id source)
    else some (.unknownBoundary b source)
  | .threat id => if id ∈ c.threats then none else some (.unknownEntry .threat id source)

theorem error_describeSubject (r : Registry) (text : String) (source : Source) (subject : Subject) :
    (r.describeSubject text source subject).2 = missing r.contents source subject := by
  cases subject with
  | boundary id =>
    simp only [describeSubject, missing]
    split
    · rename_i none
      exact (if_neg fun known => Bool.false_ne_true (describeIn_eq_none.1 none ▸ known)).symm
    · rename_i described found
      exact (if_pos (contains_of_describeIn found)).symm
  | component b id =>
    simp only [describeSubject, missing]
    split
    · rename_i absent
      have unknown : b ∉ r.contents.hosts := by
        simp [contents, SortedMap.contains, absent]
      exact (if_neg unknown).symm
    · rename_i held known
      have host : b ∈ r.contents.hosts := SortedMap.contains_iff.2 ⟨held, known⟩
      have inside : ⟨b, id⟩ ∈ r.contents.places ↔ held.contains id = true := by
        simp [contents, known]
      rw [if_pos host]
      split
      · rename_i none
        refine (if_neg fun place => ?_).symm
        exact Bool.false_ne_true (describeIn_eq_none.1 none ▸ inside.1 place)
      · rename_i described found
        exact (if_pos (inside.2 (contains_of_describeIn found))).symm
  | threat id =>
    simp only [describeSubject, missing]
    split
    · rename_i none
      exact (if_neg fun known => Bool.false_ne_true (describeIn_eq_none.1 none ▸ known)).symm
    · rename_i described found
      exact (if_pos (contains_of_describeIn found)).symm

theorem contents_apply_describes (r : Registry) {tag : Tag} (h : tag.kind = .describes) :
    (r.apply tag).1.contents = r.contents := by
  unfold apply
  cases said : Statement.ofText? tag.kind tag.text with
  | none => rfl
  | some s =>
    have kind := Statement.kind_of_ofText? said
    rw [h] at kind
    obtain ⟨subject, text, rfl⟩ := Statement.eq_describing kind
    exact contents_describeSubject r text tag.source subject

def contribution (tag : Tag) : Contents := (({} : Registry).apply tag).1.contents

theorem contents_apply (r : Registry) (tag : Tag) :
    (r.apply tag).1.contents = r.contents + contribution tag := by
  unfold contribution
  by_cases describes : tag.kind = .describes
  · rw [contents_apply_describes r describes, contents_apply_describes {} describes,
      contents_empty, add_zero]
  · obtain ⟨extra, error?, done⟩ := uniform_apply describes
    rw [(done r).1, (done {}).1, contents_empty, zero_add]

theorem error_apply (r : Registry) {tag : Tag} (h : tag.kind ≠ .describes) :
    (r.apply tag).2 = (({} : Registry).apply tag).2 := by
  obtain ⟨extra, error?, done⟩ := uniform_apply h
  rw [(done r).2, (done {}).2]

/-- Whether a tag fails depends on the contents of the registry alone. -/
theorem error_apply_congr {r s : Registry} (same : r.contents = s.contents) (tag : Tag) :
    (r.apply tag).2 = (s.apply tag).2 := by
  by_cases describes : tag.kind = .describes
  · unfold apply
    cases said : Statement.ofText? tag.kind tag.text with
    | none => rfl
    | some statement =>
      have kind := Statement.kind_of_ofText? said
      rw [describes] at kind
      obtain ⟨subject, text, rfl⟩ := Statement.eq_describing kind
      simp only [state, error_describeSubject, same]
  · rw [error_apply r describes, error_apply s describes]

end ThreatModel.Registry
