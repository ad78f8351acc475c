import ThreatModel.Proofs.Tag.Grammar

namespace ThreatModel.Statement

open Text Pattern

/-- The words of a stance that gives its place first, with `threat` as the only word of its
threat. -/
def PlaceThenWord (kind : TagKind) (joint : String) (ws : List (List Char)) (place : Place)
    (threat : List Char) (rest : List (List Char)) : Prop :=
  rest ≠ [] ∧ ∃ tag spot link ending, ws = tag :: spot :: link :: threat :: ending :: rest ∧
    IsKeyword kind.display tag ∧ Spells spot place ∧ IsKeyword joint link ∧ IsKeyword "with" ending

def WordThenPlace (kind : TagKind) (ws : List (List Char)) (place : Place) (threat : List Char)
    (rest : List (List Char)) : Prop :=
  rest ≠ [] ∧ ∃ tag link spot ending, ws = tag :: threat :: link :: spot :: ending :: rest ∧
    IsKeyword kind.display tag ∧ IsKeyword "to" link ∧ Spells spot place ∧ IsKeyword "with" ending

def AboutWord (kind : StanceKind) (ws : List (List Char)) (place : Place) (threat : List Char)
    (rest : List (List Char)) : Prop :=
  match kind with
  | .mitigation => PlaceThenWord .mitigates "against" ws place threat rest
  | .exposure => PlaceThenWord .exposes "to" ws place threat rest
  | .transfer => WordThenPlace .transfers ws place threat rest
  | .acceptance => WordThenPlace .accepts ws place threat rest

theorem unwords_singleton (w : List Char) : unwords [w] = w := List.intercalate_singleton

theorem exists_five_cons {α : Type} :
    ∀ {xs : List α}, 5 < xs.length →
      ∃ a b c d e rest, xs = a :: b :: c :: d :: e :: rest ∧ rest ≠ []
  | a :: b :: c :: d :: e :: f :: rest, _ => ⟨a, b, c, d, e, f :: rest, rfl, List.cons_ne_nil _ _⟩

section OneWord

variable {ws : List (List Char)} (proper : ∀ w ∈ ws, IsWord w) {threat : List Char}
  (word : IsWord threat) {place : Place} {text : String}

include proper word

theorem eq_singleton_of_unwords (same : String.ofList threat = .ofList (unwords ws)) :
    ws = [threat] := by
  have alone : ∀ w ∈ [threat], IsWord w := by
    intro w here
    rwa [List.mem_singleton.1 here]
  have whole := words_unwords alone
  rw [unwords_singleton] at whole
  rw [← whole, String.ofList_injective same, words_unwords proper]

theorem placeFirst_iff_placeThenWord {kind : TagKind} {joint : String} :
    PlaceFirst kind joint ws place (.ofList threat) text ↔
      ∃ rest, PlaceThenWord kind joint ws place threat rest ∧ text = .ofList (unwords rest) := by
  constructor
  · intro h
    obtain ⟨tag, pair, link, j, least, same, rfl⟩ := h
    obtain ⟨late, enough, ending⟩ := least.1
    have alone := eq_singleton_of_unwords (isWord_of_mem_take_drop proper j 3) word same
    have long := congrArg List.length alone
    rw [List.length_drop, List.length_take, List.length_singleton] at long
    -- The threat takes one word, so the text begins after the fifth.
    obtain rfl : j = 4 := by omega
    obtain ⟨a, b, c, d, e, rest, rfl, more⟩ := exists_five_cons enough
    obtain rfl : d = threat := (List.cons.inj alone).1
    simp only [List.getElem?_cons_succ, List.getElem?_cons_zero, Option.mem_def,
      Option.some.injEq, exists_eq_left'] at tag pair link ending
    exact ⟨rest, ⟨more, a, b, c, e, rfl, tag, pair, link, ending⟩, rfl⟩
  · intro h
    obtain ⟨rest, ⟨more, tag, spot, link, ending, rfl, first, pair, joined, last⟩, rfl⟩ := h
    have long := List.length_pos_of_ne_nil more
    refine ⟨⟨tag, rfl, first⟩, ⟨spot, rfl, pair⟩, ⟨link, rfl, joined⟩, 4, ⟨?_, ?_⟩, ?_, rfl⟩
    · refine ⟨Nat.le_refl 4, ?_, ending, rfl, last⟩
      simp only [List.length_cons]
      omega
    · exact fun j found => found.1
    · exact congrArg String.ofList (unwords_singleton threat).symm

theorem threatFirst_iff_wordThenPlace {kind : TagKind} :
    ThreatFirst kind ws place (.ofList threat) text ↔
      ∃ rest, WordThenPlace kind ws place threat rest ∧ text = .ofList (unwords rest) := by
  constructor
  · intro h
    obtain ⟨tag, j, least, pair, same, rfl⟩ := h
    obtain ⟨late, enough, link, _, ending⟩ := least.1
    have alone := eq_singleton_of_unwords (isWord_of_mem_take_drop proper j 1) word same
    have long := congrArg List.length alone
    rw [List.length_drop, List.length_take, List.length_singleton] at long
    -- The threat takes one word, so the place is told from it at the third.
    obtain rfl : j = 2 := by omega
    obtain ⟨a, b, c, d, e, rest, rfl, more⟩ := exists_five_cons enough
    obtain rfl : b = threat := (List.cons.inj alone).1
    simp only [List.getElem?_cons_succ, List.getElem?_cons_zero, Option.mem_def,
      Option.some.injEq, exists_eq_left'] at tag pair link ending
    exact ⟨rest, ⟨more, a, c, d, e, rfl, tag, link, pair, ending⟩, rfl⟩
  · intro h
    obtain ⟨rest, ⟨more, tag, link, spot, ending, rfl, first, joined, pair, last⟩, rfl⟩ := h
    have long := List.length_pos_of_ne_nil more
    refine ⟨⟨tag, rfl, first⟩, 2, ⟨?_, ?_⟩, ⟨spot, rfl, pair⟩, ?_, rfl⟩
    · refine ⟨Nat.le_refl 2, ?_, ⟨link, rfl, joined⟩, ⟨place, spot, rfl, pair⟩, ending, rfl, last⟩
      simp only [List.length_cons]
      omega
    · exact fun j found => found.1
    · exact congrArg String.ofList (unwords_singleton threat).symm

theorem worded_iff_aboutWord {kind : StanceKind} :
    (standing kind place (.ofList threat) text).Worded kind.tagKind ws ↔
      ∃ rest, AboutWord kind ws place threat rest ∧ text = .ofList (unwords rest) := by
  cases kind with
  | mitigation | exposure =>
    refine Iff.trans ?_ (placeFirst_iff_placeThenWord proper word)
    constructor
    · intro h
      obtain ⟨_, _, _, same, spelled⟩ := h
      cases same
      exact spelled
    · exact fun spelled => ⟨_, _, _, rfl, spelled⟩
  | transfer | acceptance =>
    refine Iff.trans ?_ (threatFirst_iff_wordThenPlace proper word)
    constructor
    · intro h
      obtain ⟨_, _, _, same, spelled⟩ := h
      cases same
      exact spelled
    · exact fun spelled => ⟨_, _, _, rfl, spelled⟩

end OneWord

end ThreatModel.Statement
