import ThreatModel.Proofs.Text.Trim
import ThreatModel.Proofs.Text.Words

namespace ThreatModel.Text

theorem unwords_ne_nil {ws : List (List Char)} (proper : ∀ w ∈ ws, IsWord w) (some' : ws ≠ []) :
    unwords ws ≠ [] := by
  obtain ⟨w, ws, rfl⟩ := List.exists_cons_of_ne_nil some'
  rw [unwords_cons]
  exact List.append_ne_nil_of_left_ne_nil (proper w List.mem_cons_self).1 _

theorem beginsDark_of_isWord {w : List Char} (word : IsWord w) (rest : List Char) :
    BeginsDark (w ++ rest) := by
  obtain ⟨c, w, rfl⟩ := List.exists_cons_of_ne_nil word.1
  exact beginsDark_cons (word.2 c List.mem_cons_self)

theorem exists_words_cons {c : Char} (dark : isBlank c = false) (cs : List Char) :
    ∃ w ws, words (c :: cs) = (c :: w) :: ws := by
  obtain ⟨piece, pieces, split⟩ := List.exists_cons_of_ne_nil (splitWhen_ne_nil (p := isBlank) cs)
  rw [words, splitWhen_cons_of_false dark split]
  exact ⟨piece, _, rfl⟩

theorem exists_respace_cons {c : Char} (dark : isBlank c = false) (unbroken : c ≠ '\\')
    (cs : List Char) : ∃ ds, respace (c :: cs) = c :: ds := by
  obtain ⟨w, ws, split⟩ := exists_words_cons dark (joinBrokenLines cs)
  have whole : joinBrokenLines (c :: cs) = c :: joinBrokenLines cs := by
    rw [joinBrokenLines]
    exact fun _ slash => absurd slash unbroken
  rw [respace, whole, split, unwords_cons]
  exact ⟨_, rfl⟩

/-- The blanks of the text are single spaces, none of them at an end. -/
structure IsSpaced (cs : List Char) : Prop where
  begins : BeginsDark cs
  ends : EndsDark cs
  plain : ∀ c ∈ cs, isBlank c = true → c = ' '
  single : ¬ [' ', ' '] <:+: cs

theorem isSpaced_nil : IsSpaced [] where
  begins _ none := by cases none
  ends _ none := by cases none
  plain _ none := by cases none
  single double := absurd (List.infix_nil.1 double) (List.cons_ne_nil _ _)

theorem isSpaced_unwords {ws : List (List Char)} (proper : ∀ w ∈ ws, IsWord w) :
    IsSpaced (unwords ws) := by
  by_cases none : ws = []
  · subst none
    exact isSpaced_nil
  · have pieces : splitWhen isBlank (unwords ws) = ws :=
      splitWhen_intercalate isBlank_space none fun w found => (proper w found).2
    have full : [] ∉ splitWhen isBlank (unwords ws) := by
      rw [pieces]
      exact fun found => (proper [] found).1 rfl
    obtain ⟨begins, ends, single⟩ := apart_of_pieces full
    refine ⟨begins, ends, ?_, single ' ' ' ' isBlank_space isBlank_space⟩
    intro c inside blank
    rcases mem_intercalate inside with space | ⟨w, found, deeper⟩
    · exact space
    · rw [(proper w found).2 c deeper] at blank
      cases blank

theorem endsDark_unwords {ws : List (List Char)} (proper : ∀ w ∈ ws, IsWord w) :
    EndsDark (unwords ws) :=
  (isSpaced_unwords proper).ends

theorem isSpaced_respace (cs : List Char) : IsSpaced (respace cs) :=
  isSpaced_unwords fun _ => isWord_of_mem_words

/-- A spaced text that is not empty has no empty piece: it would stand for a space at an end or for
two spaces in a row. -/
theorem full_of_isSpaced {cs : List Char} (spaced : IsSpaced cs) (some' : cs ≠ []) :
    [] ∉ splitWhen isBlank cs := by
  intro empty
  have joined : unwords (splitWhen isBlank cs) = cs := intercalate_splitWhen spaced.plain
  obtain ⟨front, back, pieces⟩ := List.append_of_mem empty
  rw [pieces] at joined
  by_cases first : front = []
  · subst first
    by_cases last : back = []
    · subst last
      exact some' joined.symm
    · rw [List.nil_append, unwords_cons_of_ne_nil [] last, List.nil_append] at joined
      have dark := spaced.begins ' ' (by rw [← joined]; rfl)
      exact absurd dark (by decide)
  · rw [unwords_append_of_ne_nil first (List.cons_ne_nil [] back)] at joined
    by_cases last : back = []
    · subst last
      have dark := spaced.ends ' ' (by rw [← joined]; exact List.getLast?_concat)
      exact absurd dark (by decide)
    · rw [unwords_cons_of_ne_nil [] last] at joined
      exact spaced.single ⟨unwords front, unwords back, by simpa using joined⟩

theorem unwords_words_of_isSpaced {cs : List Char} (spaced : IsSpaced cs) :
    unwords (words cs) = cs := by
  by_cases none : cs = []
  · subst none
    rfl
  · have full := full_of_isSpaced spaced none
    have kept : words cs = splitWhen isBlank cs := by
      refine List.filter_eq_self.2 fun w found => ?_
      have some' : w ≠ [] := fun empty => full (empty ▸ found)
      simpa using some'
    rw [kept]
    exact intercalate_splitWhen spaced.plain

theorem respace_eq_self_iff {cs : List Char} : respace cs = cs ↔ IsSpaced cs := by
  constructor
  · intro same
    rw [← same]
    exact isSpaced_respace cs
  · intro spaced
    have oneLine : '\n' ∉ cs := fun broken =>
      absurd (spaced.plain _ broken (by decide)) (by decide)
    rw [respace, joinBrokenLines_eq_self oneLine, unwords_words_of_isSpaced spaced]

end ThreatModel.Text
