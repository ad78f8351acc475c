import ThreatModel.Proofs.Tag.Refs
import ThreatModel.Proofs.Text.Pattern

namespace ThreatModel.Tag

open Text

theorem matches_closingGroup : closingGroup.Matches fun cs inner =>
    (∀ c ∈ inner, c ≠ '(' ∧ c ≠ ')') ∧ ∃ gap after, (∀ c ∈ gap, isBlank c = true) ∧
      (∀ c ∈ after, isBlank c = true) ∧ cs = gap ++ '(' :: inner ++ ')' :: after := by
  have parts := (Pattern.matches_many isBlank).bind fun _ =>
    (Pattern.matches_char '(').bind fun _ =>
      (Pattern.matches_many (!isParenthesis ·)).bind fun inner =>
        (Pattern.matches_char ')').bind fun _ =>
          (Pattern.matches_many isBlank).bind fun _ => Pattern.matches_pure inner
  refine parts.congr fun u inner => ?_
  constructor
  · intro h
    obtain ⟨_, _, gap, rfl, ⟨rfl, blankGap⟩, _, _, _, rfl, rfl, _, _, plain, rfl, ⟨rfl, outside⟩,
      _, _, _, rfl, rfl, _, _, after, rfl, ⟨rfl, blankAfter⟩, rfl, rfl⟩ := h
    refine ⟨fun c inside => isParenthesis_eq_false.1 (by simpa using outside c inside), _, _,
      blankGap, blankAfter, by simp⟩
  · intro h
    obtain ⟨plain, gap, after, blankGap, blankAfter, rfl⟩ := h
    have outside : ∀ c ∈ inner, (!isParenthesis c) = true := by
      intro c inside
      rw [isParenthesis_eq_false.2 (plain c inside)]
      rfl
    exact ⟨gap, '(' :: inner ++ ')' :: after, gap, by simp, ⟨rfl, blankGap⟩, ['('],
      inner ++ ')' :: after, (), by simp, rfl, inner, ')' :: after, inner, by simp, ⟨rfl, outside⟩,
      [')'], after, (), by simp, rfl, after, [], after, by simp, ⟨rfl, blankAfter⟩, rfl, rfl⟩

theorem endsInGroup_of_readAll? {cs body inner : List Char}
    (read : groupPattern.readAll? cs = some (body, inner)) : EndsInGroup cs body inner := by
  unfold groupPattern at read
  induction cs generalizing body with
  | nil =>
    rw [Pattern.readAll?_fewest_nil] at read
    obtain ⟨_, group, same⟩ := Option.map_eq_some_iff.1 read
    obtain ⟨rfl, rfl⟩ := Prod.mk.inj same
    obtain ⟨plain, gap, after, blankGap, blankAfter, whole⟩ :=
      matches_closingGroup.readAll?_eq_some group
    exact ⟨by simp [EndsDark], plain, gap, after, blankGap, blankAfter, whole⟩
  | cons c cs ih =>
    rw [Pattern.readAll?_fewest_cons] at read
    rcases Option.or_eq_some_iff.1 read with here | ⟨longer, later⟩
    · obtain ⟨_, group, same⟩ := Option.map_eq_some_iff.1 here
      obtain ⟨rfl, rfl⟩ := Prod.mk.inj same
      obtain ⟨plain, gap, after, blankGap, blankAfter, whole⟩ :=
        matches_closingGroup.readAll?_eq_some group
      exact ⟨by simp [EndsDark], plain, gap, after, blankGap, blankAfter, whole⟩
    · obtain ⟨⟨rest, _⟩, found, same⟩ := Option.map_eq_some_iff.1 later
      obtain ⟨rfl, rfl⟩ := Prod.mk.inj same
      obtain ⟨ends, plain, gap, after, blankGap, blankAfter, whole⟩ := ih found
      refine ⟨?_, plain, gap, after, blankGap, blankAfter, by rw [whole]; rfl⟩
      by_cases none : rest = []
      · -- A blank right before the group would have been read as a part of it.
        subst none
        cases blank : isBlank c with
        | false => exact endsDark_concat blank []
        | true =>
          have wider := matches_closingGroup.readAll?_isSome
            ⟨plain, c :: gap, after, List.forall_mem_cons.2 ⟨blank, blankGap⟩, blankAfter,
              congrArg (c :: ·) whole⟩
          rw [Option.map_eq_none_iff.1 longer] at wider
          cases wider
      · exact ends.append_left none [c]

theorem readAll?_isSome_of_endsInGroup {cs body inner : List Char}
    (shape : EndsInGroup cs body inner) : (groupPattern.readAll? cs).isSome = true := by
  obtain ⟨-, plain, gap, after, blankGap, blankAfter, rfl⟩ := shape
  have group := matches_closingGroup.readAll?_isSome
    ⟨plain, gap, after, blankGap, blankAfter, rfl⟩
  have whole : body ++ gap ++ '(' :: inner ++ ')' :: after =
      body ++ (gap ++ '(' :: inner ++ ')' :: after) := by simp
  rw [whole, groupPattern]
  clear whole
  induction body with
  | nil => exact Pattern.readAll?_fewest_isSome group
  | cons c body ih =>
    rw [List.cons_append, Pattern.readAll?_fewest_cons, Option.isSome_or, Option.isSome_map,
      Option.isSome_map, ih, Bool.or_true]

/-- What is found from the end of a text is what its pattern reads from the start. -/
theorem trailingGroup?_eq_readAll? (cs : List Char) :
    trailingGroup? cs = groupPattern.readAll? cs := by
  cases read : groupPattern.readAll? cs with
  | some x => exact trailingGroup?_of_endsInGroup (endsInGroup_of_readAll? read)
  | none =>
    cases found : trailingGroup? cs with
    | none => rfl
    | some x =>
      have some' := readAll?_isSome_of_endsInGroup (endsInGroup_of_trailingGroup? found)
      rw [read] at some'
      cases some'

end ThreatModel.Tag
