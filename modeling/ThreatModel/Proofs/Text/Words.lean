import ThreatModel.Text.Blank

namespace ThreatModel.Text

def IsWord (w : List Char) : Prop := w ≠ [] ∧ ∀ c ∈ w, isBlank c = false

instance (w : List Char) : Decidable (IsWord w) :=
  decidable_of_iff ((!w.isEmpty && w.all fun c => !isBlank c) = true) (by simp [IsWord])

def tailWords (ws : List (List Char)) : List Char := ws.flatMap (' ' :: ·)

theorem unwords_cons (w : List Char) (ws : List (List Char)) :
    unwords (w :: ws) = w ++ tailWords ws := by
  induction ws generalizing w with
  | nil => simp [unwords, tailWords]
  | cons v vs ih =>
    have later := ih v
    unfold unwords tailWords at later
    unfold unwords tailWords
    rw [List.intercalate_cons_cons, later]
    simp

theorem tailWords_cons (w : List Char) (ws : List (List Char)) :
    tailWords (w :: ws) = ' ' :: unwords (w :: ws) := by
  rw [unwords_cons]
  rfl

theorem unwords_cons_of_ne_nil (w : List Char) {ws : List (List Char)} (more : ws ≠ []) :
    unwords (w :: ws) = w ++ ' ' :: unwords ws := by
  obtain ⟨v, vs, rfl⟩ := List.exists_cons_of_ne_nil more
  rw [unwords_cons, tailWords_cons]

theorem unwords_append {ws : List (List Char)} (some' : ws ≠ []) (vs : List (List Char)) :
    unwords (ws ++ vs) = unwords ws ++ tailWords vs := by
  obtain ⟨w, ws, rfl⟩ := List.exists_cons_of_ne_nil some'
  rw [List.cons_append, unwords_cons, unwords_cons, tailWords, List.flatMap_append,
    List.append_assoc]
  rfl

theorem unwords_append_of_ne_nil {ws vs : List (List Char)} (some' : ws ≠ []) (more : vs ≠ []) :
    unwords (ws ++ vs) = unwords ws ++ ' ' :: unwords vs := by
  obtain ⟨v, vs, rfl⟩ := List.exists_cons_of_ne_nil more
  rw [unwords_append some', tailWords_cons]

section Split

variable {α : Type} {p : α → Bool}

theorem splitWhen_of_none {w : List α} (clean : ∀ c ∈ w, p c = false) : splitWhen p w = [w] := by
  induction w with
  | nil => rfl
  | cons c w ih =>
    rw [splitWhen, ih fun d later => clean d (List.mem_cons_of_mem _ later)]
    simp [clean c List.mem_cons_self]

theorem splitWhen_ne_nil (cs : List α) : splitWhen p cs ≠ [] := by
  cases cs with
  | nil => exact List.cons_ne_nil _ _
  | cons c cs =>
    rw [splitWhen]
    split
    · exact List.cons_ne_nil _ _
    · split <;> exact List.cons_ne_nil _ _

theorem splitWhen_cons_of_false {c : α} (here : p c = false) {cs piece : List α}
    {pieces : List (List α)} (split : splitWhen p cs = piece :: pieces) :
    splitWhen p (c :: cs) = (c :: piece) :: pieces := by
  rw [splitWhen, here, split]
  rfl

theorem splitWhen_append_cons {c : α} (here : p c = true) (cs rest : List α) :
    splitWhen p (cs ++ c :: rest) = splitWhen p cs ++ splitWhen p rest := by
  induction cs with
  | nil => simp [splitWhen, here]
  | cons d cs ih =>
    obtain ⟨piece, pieces, split⟩ := List.exists_cons_of_ne_nil (splitWhen_ne_nil (p := p) cs)
    rw [List.cons_append, splitWhen, splitWhen, ih, split]
    cases p d <;> rfl

theorem splitWhen_append {w : List α} (clean : ∀ c ∈ w, p c = false) {c : α} (here : p c = true)
    (rest : List α) : splitWhen p (w ++ c :: rest) = w :: splitWhen p rest := by
  rw [splitWhen_append_cons here, splitWhen_of_none clean, List.singleton_append]

theorem clean_of_mem_splitWhen {cs w : List α} (found : w ∈ splitWhen p cs) :
    ∀ c ∈ w, p c = false := by
  induction cs generalizing w with
  | nil =>
    rw [splitWhen, List.mem_singleton] at found
    subst found
    intro c inside
    cases inside
  | cons d cs ih =>
    rw [splitWhen] at found
    cases here : p d with
    | true =>
      rw [here, if_pos rfl] at found
      rcases List.mem_cons.1 found with first | later
      · subst first
        intro c inside
        cases inside
      · exact ih later
    | false =>
      rw [here, if_neg Bool.false_ne_true] at found
      cases pieces : splitWhen p cs with
      | nil =>
        rw [pieces, List.mem_singleton] at found
        subst found
        intro c inside
        rw [List.mem_singleton.1 inside, here]
      | cons piece more =>
        rw [pieces] at found
        rcases List.mem_cons.1 found with first | later
        · subst first
          intro c inside
          rcases List.mem_cons.1 inside with same | deeper
          · rw [same, here]
          · exact ih (pieces ▸ List.mem_cons_self) c deeper
        · exact ih (pieces ▸ List.mem_cons_of_mem _ later)

theorem subset_of_mem_splitWhen {cs w : List α} (found : w ∈ splitWhen p cs) : w ⊆ cs := by
  induction cs generalizing w with
  | nil =>
    rw [splitWhen, List.mem_singleton] at found
    exact found ▸ List.Subset.refl _
  | cons d cs ih =>
    rw [splitWhen] at found
    split at found
    · rcases List.mem_cons.1 found with first | later
      · exact first ▸ List.nil_subset _
      · exact fun c inside => List.mem_cons_of_mem _ (ih later inside)
    · split at found
      · rw [List.mem_singleton.1 found]
        simp
      · rename_i piece more pieces
        rcases List.mem_cons.1 found with first | later
        · rw [first]
          have deeper := ih (pieces ▸ List.mem_cons_self)
          exact List.cons_subset_cons d deeper
        · have deeper := ih (pieces ▸ List.mem_cons_of_mem _ later)
          exact fun c inside => List.mem_cons_of_mem _ (deeper inside)

theorem mem_of_mem_intercalate {sep : List α} {c : α} {ws : List (List α)}
    (inside : c ∈ sep.intercalate ws) : c ∈ sep ∨ ∃ w ∈ ws, c ∈ w := by
  induction ws with
  | nil => cases inside
  | cons w ws ih =>
    cases ws with
    | nil => exact .inr ⟨w, List.mem_cons_self, by simpa using inside⟩
    | cons v vs =>
      rw [List.intercalate_cons_cons, List.append_assoc, List.mem_append, List.mem_append] at inside
      rcases inside with here | between | later
      · exact .inr ⟨w, List.mem_cons_self, here⟩
      · exact .inl between
      · rcases ih later with between | ⟨u, member, deeper⟩
        · exact .inl between
        · exact .inr ⟨u, List.mem_cons_of_mem _ member, deeper⟩

theorem mem_intercalate {sep c : α} {ws : List (List α)} (inside : c ∈ [sep].intercalate ws) :
    c = sep ∨ ∃ w ∈ ws, c ∈ w :=
  (mem_of_mem_intercalate inside).imp_left List.mem_singleton.1

theorem splitWhen_intercalate {sep : α} (splits : p sep = true) {ws : List (List α)}
    (some' : ws ≠ []) (clean : ∀ w ∈ ws, ∀ c ∈ w, p c = false) :
    splitWhen p ([sep].intercalate ws) = ws := by
  induction ws with
  | nil => exact absurd rfl some'
  | cons w ws ih =>
    have here := clean w List.mem_cons_self
    cases ws with
    | nil => rw [List.intercalate_singleton, splitWhen_of_none here]
    | cons v vs =>
      have rest := ih (List.cons_ne_nil v vs) fun u later => clean u (List.mem_cons_of_mem _ later)
      rw [List.intercalate_cons_cons, List.append_assoc, List.singleton_append,
        splitWhen_append here splits, rest]

theorem intercalate_splitWhen {sep : α} {cs : List α} (only : ∀ c ∈ cs, p c = true → c = sep) :
    [sep].intercalate (splitWhen p cs) = cs := by
  induction cs with
  | nil => rfl
  | cons c cs ih =>
    have later := ih fun d inside => only d (List.mem_cons_of_mem _ inside)
    obtain ⟨piece, pieces, split⟩ := List.exists_cons_of_ne_nil (splitWhen_ne_nil (p := p) cs)
    cases here : p c with
    | true =>
      obtain rfl := only c List.mem_cons_self here
      rw [← List.nil_append (c :: cs), splitWhen_append_cons here, splitWhen, split,
        List.singleton_append, List.intercalate_cons_cons, ← split, later]
      rfl
    | false =>
      rw [splitWhen_cons_of_false here split]
      rw [split] at later
      cases pieces with
      | nil => simpa using later
      | cons next more =>
        rw [List.intercalate_cons_cons] at later ⊢
        rw [List.cons_append, List.cons_append, later]

/-- Where no piece is empty, separators stand alone and inside. -/
theorem apart_of_pieces {cs : List α} (full : [] ∉ splitWhen p cs) :
    (∀ c ∈ cs.head?, p c = false) ∧ (∀ c ∈ cs.getLast?, p c = false) ∧
      ∀ c d, p c = true → p d = true → ¬ [c, d] <:+: cs := by
  refine ⟨fun c first => ?_, fun c last => ?_, fun c d left right => ?_⟩
  · obtain ⟨rest, rfl⟩ := List.head?_eq_some_iff.1 first
    refine Bool.eq_false_iff.2 fun here => full ?_
    rw [← List.nil_append (c :: rest), splitWhen_append_cons here]
    exact List.mem_append_left _ List.mem_cons_self
  · obtain ⟨front, rfl⟩ := List.getLast?_eq_some_iff.1 last
    refine Bool.eq_false_iff.2 fun here => full ?_
    rw [splitWhen_append_cons here]
    exact List.mem_append_right _ List.mem_cons_self
  · rintro ⟨front, back, rfl⟩
    refine full ?_
    rw [List.append_assoc, List.cons_append, List.singleton_append, splitWhen_append_cons left,
      ← List.nil_append (d :: back), splitWhen_append_cons right]
    exact List.mem_append_right _ (List.mem_append_left _ List.mem_cons_self)

/-- What is cut at every separator can be found piece by piece. -/
theorem flatMap_splitWhen {β : Type} {f : List α → List β}
    (cut : ∀ c, p c = true → ∀ cs rest, f (cs ++ c :: rest) = f cs ++ f rest) (cs : List α) :
    (splitWhen p cs).flatMap f = f cs := by
  have after (before : List α) (clean : ∀ c ∈ before, p c = false) :
      (splitWhen p (before ++ cs)).flatMap f = f (before ++ cs) := by
    induction cs generalizing before with
    | nil =>
      rw [List.append_nil, splitWhen_of_none clean, List.flatMap_singleton]
    | cons c cs ih =>
      cases here : p c with
      | true =>
        have rest := ih [] fun d none => absurd none List.not_mem_nil
        rw [splitWhen_append clean here, List.flatMap_cons, cut c here]
        exact congrArg (f before ++ ·) rest
      | false =>
        have longer := ih (before ++ [c]) fun d inside =>
          (List.mem_append.1 inside).elim (clean d) fun last => List.mem_singleton.1 last ▸ here
        rwa [List.append_assoc, List.singleton_append] at longer
  exact after [] fun c none => absurd none List.not_mem_nil

end Split

theorem isWord_of_mem_words {cs w : List Char} (found : w ∈ words cs) : IsWord w := by
  obtain ⟨piece, nonempty⟩ := List.mem_filter.1 found
  refine ⟨?_, clean_of_mem_splitWhen piece⟩
  intro empty
  subst empty
  exact absurd nonempty (by decide)

theorem isBlank_space : isBlank ' ' = true := by decide

theorem words_unwords {ws : List (List Char)} (proper : ∀ w ∈ ws, IsWord w) :
    words (unwords ws) = ws := by
  by_cases none : ws = []
  · subst none
    rfl
  · rw [words, unwords, splitWhen_intercalate isBlank_space none fun w found => (proper w found).2]
    exact List.filter_eq_self.2 fun w found => by simpa using (proper w found).1

theorem joinBrokenLines_eq_self {cs : List Char} (oneLine : '\n' ∉ cs) :
    joinBrokenLines cs = cs := by
  induction cs using joinBrokenLines.induct with
  | case1 => rfl
  | case2 rest _ => exact absurd (by simp) oneLine
  | case3 c rest apart ih =>
    rw [joinBrokenLines, ih fun later => oneLine (List.mem_cons_of_mem _ later)]
    exact apart

theorem newline_not_mem_unwords {ws : List (List Char)} (proper : ∀ w ∈ ws, IsWord w) :
    '\n' ∉ unwords ws := by
  have inside : ∀ w ∈ ws, '\n' ∉ w := fun w found broken =>
    absurd ((proper w found).2 _ broken) (by decide)
  cases ws with
  | nil => exact List.not_mem_nil
  | cons w ws =>
    rw [unwords_cons, tailWords]
    intro found
    rcases List.mem_append.1 found with first | later
    · exact inside w List.mem_cons_self first
    · obtain ⟨v, member, place⟩ := List.mem_flatMap.1 later
      rcases List.mem_cons.1 place with space | deeper
      · exact absurd space (by decide)
      · exact inside v (List.mem_cons_of_mem _ member) deeper

theorem respace_unwords {ws : List (List Char)} (proper : ∀ w ∈ ws, IsWord w) :
    respace (unwords ws) = unwords ws := by
  rw [respace, joinBrokenLines_eq_self (newline_not_mem_unwords proper), words_unwords proper]

theorem respace_respace (cs : List Char) : respace (respace cs) = respace cs :=
  respace_unwords fun _ => isWord_of_mem_words

theorem respace_eq_self {w : List Char} (word : IsWord w) : respace w = w := by
  have proper : ∀ v ∈ [w], IsWord v := fun v found => List.mem_singleton.1 found ▸ word
  have single := respace_unwords proper
  rwa [unwords_cons, show w ++ tailWords [] = w from List.append_nil w] at single

def AtGap (cs : List Char) : Prop := ∀ c ∈ cs.head?, isBlank c = true

theorem atGap_tailWords (ws : List (List Char)) : AtGap (tailWords ws) := by
  cases ws with
  | nil => intro c here; cases here
  | cons w ws =>
    intro c here
    rw [tailWords_cons] at here
    exact (Option.some.inj here) ▸ isBlank_space

/-- There is one way only to cut a list before the first item that satisfies `p`. -/
theorem cut_unique {α : Type} {p : α → Bool} {w u more rest : List α}
    (left : ∀ c ∈ w, p c = false) (right : ∀ c ∈ u, p c = false)
    (leftStop : ∀ c ∈ more.head?, p c = true) (rightStop : ∀ c ∈ rest.head?, p c = true)
    (same : w ++ more = u ++ rest) : w = u ∧ more = rest := by
  induction w generalizing u with
  | nil =>
    cases u with
    | nil => exact ⟨rfl, same⟩
    | cons d u =>
      have stop := leftStop d (by rw [← List.nil_append more, same]; rfl)
      rw [right d List.mem_cons_self] at stop
      cases stop
  | cons c w ih =>
    cases u with
    | nil =>
      have stop := rightStop c (by rw [← List.nil_append rest, ← same]; rfl)
      rw [left c List.mem_cons_self] at stop
      cases stop
    | cons d u =>
      obtain ⟨first, later⟩ := List.cons.inj same
      obtain ⟨equal, gap⟩ := ih (fun e inside => left e (List.mem_cons_of_mem _ inside))
        (fun e inside => right e (List.mem_cons_of_mem _ inside)) later
      exact ⟨by rw [first, equal], gap⟩

theorem unwords_words {cs : List Char} (spaced : respace cs = cs) : unwords (words cs) = cs := by
  have proper : ∀ w ∈ words (joinBrokenLines cs), IsWord w := fun w => isWord_of_mem_words
  have again : words (respace cs) = words (joinBrokenLines cs) := words_unwords proper
  rw [spaced] at again
  rw [again]
  exact spaced

theorem flatten_splitWhen {α : Type} (p : α → Bool) (cs : List α) :
    (splitWhen p cs).flatten = cs.filter fun c => !p c := by
  induction cs with
  | nil => rfl
  | cons c cs ih =>
    rw [splitWhen]
    cases here : p c with
    | true => simpa [here] using ih
    | false =>
      rw [List.filter_cons_of_pos (by simp [here]), ← ih]
      cases splitWhen p cs <;> rfl

theorem filter_unwords (ws : List (List Char)) :
    (unwords ws).filter (fun c => !isBlank c) = ws.flatten.filter fun c => !isBlank c := by
  have later (vs : List (List Char)) : (tailWords vs).filter (fun c => !isBlank c) =
      vs.flatten.filter fun c => !isBlank c := by
    induction vs with
    | nil => rfl
    | cons v vs ih =>
      rw [tailWords, List.flatMap_cons, List.cons_append, List.filter_cons_of_neg (by decide),
        List.filter_append, ← tailWords, ih, List.flatten_cons, List.filter_append]
  cases ws with
  | nil => rfl
  | cons w ws =>
    rw [unwords_cons, List.filter_append, later, List.flatten_cons, List.filter_append]

theorem filter_respace {cs : List Char} (oneLine : '\n' ∉ cs) :
    (respace cs).filter (fun c => !isBlank c) = cs.filter fun c => !isBlank c := by
  rw [respace, joinBrokenLines_eq_self oneLine, filter_unwords, words,
    List.flatten_filter_not_isEmpty, flatten_splitWhen, List.filter_filter]
  simp

theorem newline_not_mem_of_mem_lines {cs line : List Char} (member : line ∈ lines cs) :
    '\n' ∉ line := by
  have clean : ∀ piece ∈ splitWhen (· = '\n') cs, '\n' ∉ piece := by
    intro piece found broken
    have apart := clean_of_mem_splitWhen found _ broken
    exact absurd apart (by decide)
  rcases List.mem_append.1 member with ended | last
  · obtain ⟨piece, found, rfl⟩ := List.mem_map.1 ended
    have whole := clean piece ((List.dropLast_sublist _).subset found)
    unfold dropReturn
    split
    · next rest reversed =>
      intro broken
      refine whole (List.mem_reverse.1 ?_)
      rw [reversed]
      exact List.mem_cons_of_mem _ (List.mem_reverse.1 broken)
    · exact whole
  · have found := (List.mem_filter.1 last).1
    exact clean line (List.mem_of_getLast? (Option.mem_toList.1 found))

end ThreatModel.Text
