namespace ThreatModel.Text

/-- Membership in ascending ranges; the search stops at the first range beyond `n`. -/
def inRanges : List (Nat × Nat) → Nat → Bool
  | [], _ => false
  | (first, last) :: rest, n => if n < first then false else n ≤ last || inRanges rest n

theorem exists_of_inRanges {rs : List (Nat × Nat)} {n : Nat} (h : inRanges rs n = true) :
    ∃ r ∈ rs, r.1 ≤ n ∧ n ≤ r.2 := by
  induction rs with
  | nil => cases h
  | cons r rest ih =>
    obtain ⟨first, last⟩ := r
    simp only [inRanges] at h
    split at h
    · cases h
    · by_cases k : n ≤ last
      · exact ⟨_, List.mem_cons_self, Nat.le_of_not_lt ‹_›, k⟩
      · have ⟨r, hr, k⟩ := ih (by simpa [k] using h)
        exact ⟨r, List.mem_cons_of_mem _ hr, k⟩

end ThreatModel.Text
