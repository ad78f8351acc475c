import Mathlib.Data.List.Basic
import ThreatModel.Text.Blank
import ThreatModel.Text.Keyword
import ThreatModel.Text.Letter

namespace ThreatModel.Text

theorem blankRanges_apart :
    ∀ r ∈ blankRanges, ∀ n ∈ List.range' r.1 (r.2 + 1 - r.1),
      inRanges alphabeticRanges n = false ∧ inRanges joiningRanges n = false ∧
        inRanges numericRanges n = false := by
  decide +kernel

theorem exists_blankRange {c : Char} (blank : isBlank c = true) :
    ∃ r ∈ blankRanges, c.toNat ∈ List.range' r.1 (r.2 + 1 - r.1) := by
  obtain ⟨r, member, low, high⟩ := exists_of_inRanges blank
  refine ⟨r, member, ?_⟩
  rw [List.mem_range'_1]
  omega

theorem isWordChar_of_isBlank {c : Char} (blank : isBlank c = true) : isWordChar c = false := by
  obtain ⟨r, member, inside⟩ := exists_blankRange blank
  obtain ⟨alphabetic, joining, _⟩ := blankRanges_apart r member _ inside
  unfold isWordChar isAlphabetic
  rw [alphabetic, joining]
  rfl

theorem isAlphanumeric_of_isBlank {c : Char} (blank : isBlank c = true) :
    isAlphanumeric c = false := by
  obtain ⟨r, member, inside⟩ := exists_blankRange blank
  obtain ⟨alphabetic, _, numeric⟩ := blankRanges_apart r member _ inside
  unfold isAlphanumeric isAlphabetic
  rw [alphabetic, numeric]
  rfl

theorem isBlank_of_isWordChar {c : Char} (h : isWordChar c = true) : isBlank c = false := by
  cases blank : isBlank c with
  | false => rfl
  | true =>
    rw [isWordChar_of_isBlank blank] at h
    cases h

theorem toLower_of_isBlank {c : Char} (blank : isBlank c = true) : c.toLower = c := by
  obtain ⟨r, member, low, high⟩ := exists_of_inRanges blank
  have apart : ∀ r ∈ blankRanges, r.2 < 65 ∨ 90 < r.1 := by decide
  have outside := apart r member
  unfold Char.toLower
  rw [dif_neg]
  intro ⟨above, below⟩
  have least : 65 ≤ c.toNat := above
  have most : c.toNat ≤ 90 := below
  omega

theorem isBlank_of_isCaseOf {letter c : Char} (h : isCaseOf letter c = true)
    (dark : isBlank letter = false) : isBlank c = false := by
  cases blank : isBlank c with
  | false => rfl
  | true =>
    have lower := toLower_of_isBlank blank
    simp only [isCaseOf, lower, Bool.or_eq_true, Bool.and_eq_true, decide_eq_true_eq, or_self] at h
    rcases h with (same | ⟨_, long⟩) | ⟨_, kelvin⟩
    · rw [same, dark] at blank
      cases blank
    · subst long
      exact absurd blank (by decide)
    · subst kelvin
      exact absurd blank (by decide)

end ThreatModel.Text
