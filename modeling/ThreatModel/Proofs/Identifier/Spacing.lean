import ThreatModel.Proofs.Identifier
import ThreatModel.Proofs.Text.Spacing

namespace ThreatModel.Identifier

open Text

theorem nameWords_append_cons {c : Char} (separates : isSeparator c = true) (cs rest : List Char) :
    nameWords (cs ++ c :: rest) = nameWords cs ++ nameWords rest := by
  unfold nameWords
  rw [splitWhen_append_cons separates, List.map_append, List.filter_append]

theorem map_filter_splitWhen {α : Type} (p q : α → Bool) (cs : List α) :
    (splitWhen p (cs.filter fun c => p c || q c)).map (·.filter q) =
      (splitWhen p cs).map (·.filter q) := by
  induction cs with
  | nil => rfl
  | cons c cs ih =>
    obtain ⟨piece, pieces, split⟩ := List.exists_cons_of_ne_nil (splitWhen_ne_nil (p := p) cs)
    obtain ⟨kept, others, kepts⟩ := List.exists_cons_of_ne_nil
      (splitWhen_ne_nil (p := p) (cs.filter fun c => p c || q c))
    cases separates : p c with
    | true =>
      rw [List.filter_cons_of_pos (by simp [separates]), splitWhen, splitWhen, separates]
      simpa using ih
    | false =>
      rw [split, kepts, List.map_cons, List.map_cons] at ih
      obtain ⟨first, later⟩ := List.cons.inj ih
      rw [splitWhen_cons_of_false separates split, List.map_cons]
      cases counts : q c with
      | true =>
        rw [List.filter_cons_of_pos (by simp [counts]), splitWhen_cons_of_false separates kepts,
          List.map_cons, later, List.filter_cons_of_pos counts, List.filter_cons_of_pos counts, first]
      | false =>
        rw [List.filter_cons_of_neg (by simp [separates, counts]), kepts, List.map_cons, later,
          List.filter_cons_of_neg (by simp [counts]), first]

theorem nameWords_filter (cs : List Char) :
    nameWords (cs.filter fun c => isSeparator c || isAlphanumeric c) = nameWords cs := by
  rw [nameWords, map_filter_splitWhen, nameWords]

theorem identifierWords_append_blank {c : Char} (blank : isBlank c = true) (cs rest : List Char) :
    identifierWords (cs ++ c :: rest) = identifierWords cs ++ identifierWords rest := by
  have separates : isSeparator c = true := by simp [isSeparator, blank]
  rw [identifierWords, lowercase_append_blank blank, nameWords_append_cons separates]
  rfl

theorem identifierWords_backslash (cs : List Char) :
    identifierWords (cs ++ ['\\']) = identifierWords cs := by
  have caseless : IsCaseless '\\' := by decide +kernel
  have alone : lowerChar '\\' = ['\\'] := by decide +kernel
  rw [identifierWords, lowercase_append_cons caseless, alone, ← nameWords_filter, List.filter_append]
  have dropped : (['\\'] ++ lowercase []).filter (fun c => isSeparator c || isAlphanumeric c) = [] := by
    decide +kernel
  rw [dropped, List.append_nil, nameWords_filter]
  rfl

theorem identifierWords_joinBrokenLines (cs : List Char) :
    identifierWords (joinBrokenLines cs) = identifierWords cs := by
  -- Lowercase depends on what comes before, so the induction carries it along.
  have after (before : List Char) :
      identifierWords (before ++ joinBrokenLines cs) = identifierWords (before ++ cs) := by
    induction cs using joinBrokenLines.induct generalizing before with
    | case1 => rfl
    | case2 rest ih =>
      have newline : isBlank '\n' = true := by decide
      have broken : before ++ '\\' :: '\n' :: rest = (before ++ ['\\']) ++ '\n' :: rest := by simp
      have later : identifierWords (joinBrokenLines rest) = identifierWords rest := ih []
      rw [joinBrokenLines, identifierWords_append_blank isBlank_space, later, broken,
        identifierWords_append_blank newline, identifierWords_backslash]
    | case3 c rest apart ih =>
      have longer := ih (before ++ [c])
      rw [List.append_assoc, List.append_assoc] at longer
      rw [joinBrokenLines]
      · exact longer
      · exact apart
  exact after []

theorem identifierWords_unwords (ws : List (List Char)) :
    identifierWords (unwords ws) = ws.flatMap identifierWords := by
  induction ws with
  | nil => rfl
  | cons w ws ih =>
    rw [List.flatMap_cons, ← ih]
    by_cases none : ws = []
    · subst none
      rw [unwords_cons]
      exact (congrArg identifierWords (List.append_nil w)).trans (List.append_nil _).symm
    · rw [unwords_cons_of_ne_nil w none, identifierWords_append_blank isBlank_space]

theorem identifierWords_unwords_words (cs : List Char) :
    identifierWords (unwords (words cs)) = identifierWords cs := by
  have full (pieces : List (List Char)) :
      (pieces.filter (!·.isEmpty)).flatMap identifierWords = pieces.flatMap identifierWords := by
    induction pieces with
    | nil => rfl
    | cons piece pieces ih =>
      cases piece with
      | nil => exact ih
      | cons c piece =>
        rw [List.filter_cons_of_pos rfl, List.flatMap_cons, List.flatMap_cons, ih]
  rw [identifierWords_unwords, words, full]
  exact flatMap_splitWhen (fun c blank => identifierWords_append_blank blank) cs

theorem identifierWords_respace (cs : List Char) :
    identifierWords (respace cs) = identifierWords cs := by
  rw [respace, identifierWords_unwords_words, identifierWords_joinBrokenLines]

def spaced (text : String) : String := .ofList (respace text.toList)

theorem isIdentifier_spaced {text : String} (identifier : isIdentifier text = true) :
    isIdentifier (spaced text) = true := by
  obtain ⟨rest, start⟩ := List.head?_eq_some_iff.1 (of_decide_eq_true identifier)
  obtain ⟨spelled, same⟩ := exists_respace_cons (c := '@') (by decide) (by decide) rest
  rw [isIdentifier, spaced, start, same, String.toList_ofList]
  rfl

theorem ofText_eq_ofText_spaced {text : String} (some' : spaced text ≠ "")
    (name : isIdentifier (spaced text) = false) : ofText text = ofText (spaced text) := by
  have full : text ≠ "" := by
    intro empty
    subst empty
    exact some' rfl
  have raw : isIdentifier text = false := by
    cases identifier : isIdentifier text with
    | false => rfl
    | true =>
      rw [isIdentifier_spaced identifier] at name
      cases name
  rw [ofText_of_name full raw, ofText_of_name some' name, spaced, String.toList_ofList,
    identifierWords_respace]

/-- In one-space form all blanks are single spaces between other characters, and such texts are in that
form already. A name has the identifier of its one-space form, unless that starts as an identifier
does, so names that are spaced or broken differently have the same identifier. -/
theorem ofText_spaced (text : String) :
    IsSpaced (spaced text).toList ∧
    spaced (spaced text) = spaced text ∧
    (spaced text = text ↔ IsSpaced text.toList) ∧
    (spaced text ≠ "" → isIdentifier (spaced text) = false →
      ofText text = ofText (spaced text) ∧
      ∀ other, spaced other = spaced text → ofText other = ofText text) := by
  refine ⟨?_, ?_, ?_, ?_⟩
  · rw [spaced, String.toList_ofList]
    exact isSpaced_respace text.toList
  · rw [spaced, spaced, String.toList_ofList, respace_respace]
  · rw [← respace_eq_self_iff, spaced, ← String.toList_inj, String.toList_ofList]
  · intro some' name
    have here := ofText_eq_ofText_spaced some' name
    refine ⟨here, fun other same => ?_⟩
    have there := ofText_eq_ofText_spaced (same ▸ some') (same ▸ name)
    rw [here, there, same]

/-- The line is broken after a final sigma, and blanks of three kinds surround the words. -/
theorem ofText_brokenStreet :
    spaced "\t ΟΔΟΣ\\\n\u00a0 Süd " = "ΟΔΟΣ Süd" ∧
    ofText "\t ΟΔΟΣ\\\n\u00a0 Süd " = "@οδος_süd" ∧
    ofText "\t ΟΔΟΣ\\\n\u00a0 Süd " = ofText (spaced "\t ΟΔΟΣ\\\n\u00a0 Süd ") := by
  have form : spaced "\t ΟΔΟΣ\\\n\u00a0 Süd " = "ΟΔΟΣ Süd" := by decide +kernel
  refine ⟨form, by decide +kernel, ((ofText_spaced _).2.2.2 ?_ ?_).1⟩
  · rw [form]
    decide
  · rw [form]
    decide +kernel

end ThreatModel.Identifier
