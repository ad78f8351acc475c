import ThreatModel.Identifier
import ThreatModel.Proofs.Text.Letter
import ThreatModel.Proofs.Text.Lowercase
import ThreatModel.Proofs.Text.Words

namespace ThreatModel.Identifier

open Text

def signed (w : List Char) : String := .ofList ('@' :: w)

/-- What follows the `@` of the identifier of some name. -/
def IsDerived (w : List Char) : Prop := ∃ name, ofName name = '@' :: w

theorem mem_nameWords {cs w : List Char} (found : w ∈ nameWords cs) :
    w ≠ [] ∧ w ⊆ cs ∧ ∀ c ∈ w, isSeparator c = false ∧ isAlphanumeric c = true := by
  obtain ⟨filtered, nonempty⟩ := List.mem_filter.1 found
  obtain ⟨piece, split, rfl⟩ := List.mem_map.1 filtered
  refine ⟨by simpa using nonempty, fun c inside => ?_, fun c inside => ?_⟩
  · exact subset_of_mem_splitWhen split (List.mem_filter.1 inside).1
  · have ⟨inPiece, alphanumeric⟩ := List.mem_filter.1 inside
    exact ⟨clean_of_mem_splitWhen split c inPiece, alphanumeric⟩

theorem isSeparator_of_isAlphanumeric {c : Char} (alphanumeric : isAlphanumeric c = true) :
    isSeparator c = false := by
  cases separates : isSeparator c with
  | false => rfl
  | true =>
    simp only [isSeparator, Bool.or_eq_true, decide_eq_true_eq] at separates
    rcases separates with (blank | rfl) | rfl
    · rw [isAlphanumeric_of_isBlank blank] at alphanumeric
      cases alphanumeric
    · exact absurd alphanumeric (by decide)
    · exact absurd alphanumeric (by decide)

theorem flatten_nameWords (cs : List Char) : (nameWords cs).flatten = cs.filter isAlphanumeric := by
  rw [nameWords, List.flatten_filter_not_isEmpty, ← List.filter_flatten, flatten_splitWhen,
    List.filter_filter]
  refine List.filter_congr fun c _ => ?_
  cases alphanumeric : isAlphanumeric c with
  | false => rfl
  | true => simp [isSeparator_of_isAlphanumeric alphanumeric]

theorem nameWords_intercalate {ws : List (List Char)}
    (proper : ∀ w ∈ ws, w ≠ [] ∧ ∀ c ∈ w, isSeparator c = false ∧ isAlphanumeric c = true) :
    nameWords (['_'].intercalate ws) = ws := by
  by_cases none : ws = []
  · subst none
    rfl
  · have split : splitWhen isSeparator (['_'].intercalate ws) = ws :=
      splitWhen_intercalate (by decide) none fun w found c inside => ((proper w found).2 c inside).1
    have kept : ws.map (·.filter isAlphanumeric) = ws := by
      refine (List.map_congr_left fun w found => ?_).trans (List.map_id ws)
      exact List.filter_eq_self.2 fun c inside => ((proper w found).2 c inside).2
    rw [nameWords, split, kept]
    exact List.filter_eq_self.2 fun w found => by simpa using (proper w found).1

theorem nameWords_intercalate_nameWords (cs : List Char) :
    nameWords (['_'].intercalate (nameWords cs)) = nameWords cs := by
  refine nameWords_intercalate fun w found => ?_
  have ⟨nonempty, _, clean⟩ := mem_nameWords found
  exact ⟨nonempty, clean⟩

theorem intercalate_nameWords_ne_nil {cs : List Char} (some' : nameWords cs ≠ []) :
    ['_'].intercalate (nameWords cs) ≠ [] := by
  intro none
  have again := nameWords_intercalate_nameWords cs
  rw [none] at again
  exact some' again.symm

theorem mem_of_isDerived {w : List Char} (derived : IsDerived w) :
    ∀ c ∈ w, IsLower c ∧ (c = '_' ∨ isAlphanumeric c = true) := by
  obtain ⟨name, shape⟩ := derived
  obtain rfl := (List.cons.inj shape).2
  intro c inside
  rcases mem_intercalate inside with rfl | ⟨word, found, deeper⟩
  · exact ⟨by decide, .inl rfl⟩
  · have ⟨_, front, clean⟩ := mem_nameWords found
    exact ⟨isLower_of_mem_lowercase (front deeper), .inr (clean c deeper).2⟩

theorem ofName_of_isDerived {w : List Char} (derived : IsDerived w) : ofName w = '@' :: w := by
  have lower : lowercase w = w :=
    lowercase_eq_self fun c inside => (mem_of_isDerived derived c inside).1
  obtain ⟨name, shape⟩ := derived
  have words : ['_'].intercalate (nameWords (lowercase name)) = w := (List.cons.inj shape).2
  have again : nameWords w = nameWords (lowercase name) := by
    rw [← words, nameWords_intercalate_nameWords]
  rw [ofName, lower, again, words]

theorem isDerived_iff {w : List Char} : IsDerived w ↔ ofName w = '@' :: w :=
  ⟨ofName_of_isDerived, fun same => ⟨w, same⟩⟩

instance (w : List Char) : Decidable (IsDerived w) := decidable_of_iff _ isDerived_iff.symm

theorem isIdentifier_of_isDerived {w : List Char} (derived : IsDerived w) :
    isIdentifier (.ofList w) = false := by
  have absent : '@' ∉ w := by
    intro inside
    rcases (mem_of_isDerived derived '@' inside).2 with same | alphanumeric
    · exact absurd same (by decide)
    · exact absurd alphanumeric (by decide)
  cases w with
  | nil => rfl
  | cons c w =>
    have other : c ≠ '@' := fun same => absent (same ▸ List.mem_cons_self)
    simpa [isIdentifier] using other

theorem ofText_of_isDerived {w : List Char} (derived : IsDerived w) (some' : w ≠ []) :
    ofText (.ofList w) = signed w := by
  have name := isIdentifier_of_isDerived derived
  have full : (String.ofList w).isEmpty = false := by simpa using some'
  rw [ofText, name, full]
  simp [ofName_of_isDerived derived, signed]

theorem signed_ne_bare {w : List Char} (some' : w ≠ []) : signed w ≠ bare := by
  intro same
  have chars : '@' :: w = ['@'] := by
    have again := congrArg String.toList same
    simpa [signed, bare] using again
  exact some' (List.cons.inj chars).2

def identifierWords (cs : List Char) : List (List Char) := nameWords (lowercase cs)

structure IsNameWord (w : List Char) : Prop where
  nonempty : w ≠ []
  alphanumeric : ∀ c ∈ w, isAlphanumeric c = true
  lower : ∀ c ∈ w, IsLower c

theorem isNameWord_of_mem {cs w : List Char} (found : w ∈ identifierWords cs) :
    IsNameWord w := by
  obtain ⟨nonempty, front, clean⟩ := mem_nameWords found
  exact ⟨nonempty, fun c inside => (clean c inside).2,
    fun c inside => isLower_of_mem_lowercase (front inside)⟩

theorem ofText_of_name {text : String} (some' : text ≠ "") (name : isIdentifier text = false) :
    ofText text = signed (['_'].intercalate (identifierWords text.toList)) := by
  have full : text.isEmpty = false := by simpa using some'
  rw [ofText, full, name]
  rfl

def spelling (id : String) : String := .ofList id.toList.tail

theorem spelling_signed (w : List Char) : spelling (signed w) = .ofList w := by
  rw [spelling, signed, String.toList_ofList, List.tail_cons]

/-- The identifier of a name consists of words, each its own lowercase, with all letters and digits
of the lowercase name. If there is a word, its spelling has the same identifier once more. -/
theorem ofText_normal {text : String} (some' : text ≠ "") (name : isIdentifier text = false) :
    ∃ ws : List (List Char),
      ofText text = signed (['_'].intercalate ws) ∧
      (∀ w ∈ ws, IsNameWord w ∧ lowercase w = w) ∧
      ws.flatten = (lowercase text.toList).filter isAlphanumeric ∧
      (ws ≠ [] → ofText (spelling (ofText text)) = ofText text) := by
  refine ⟨identifierWords text.toList, ofText_of_name some' name, ?_, flatten_nameWords _, ?_⟩
  · intro w found
    have word := isNameWord_of_mem found
    exact ⟨word, lowercase_eq_self word.lower⟩
  · intro more
    have derived : IsDerived (['_'].intercalate (identifierWords text.toList)) := ⟨text.toList, rfl⟩
    rw [ofText_of_name some' name, spelling_signed,
      ofText_of_isDerived derived (intercalate_nameWords_ne_nil more)]

/-- The sigma is a final one before the hyphens and stays so when they are gone. -/
theorem ofText_street :
    "ΟΔΟΣ--2/Süd" ≠ "" ∧ isIdentifier "ΟΔΟΣ--2/Süd" = false ∧
    ofText "ΟΔΟΣ--2/Süd" = "@οδος2_süd" ∧
    ofText (spelling (ofText "ΟΔΟΣ--2/Süd")) = ofText "ΟΔΟΣ--2/Süd" := by
  have some' : "ΟΔΟΣ--2/Süd" ≠ "" := by decide
  have name : isIdentifier "ΟΔΟΣ--2/Süd" = false := by decide +kernel
  have value : ofText "ΟΔΟΣ--2/Süd" = "@οδος2_süd" := by decide +kernel
  obtain ⟨ws, same, _, _, again⟩ := ofText_normal some' name
  refine ⟨some', name, value, again ?_⟩
  intro none
  rw [none, value] at same
  exact absurd same (by decide)

end ThreatModel.Identifier
