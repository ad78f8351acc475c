import ThreatModel.Catalogue.Library
import ThreatModel.Identifier
import ThreatModel.Proofs.SortedMap.Lists
import ThreatModel.Proofs.Text.Words

namespace ThreatModel.Catalogue

open Text

def IsSlugLetter (c : Char) : Prop := ('a' ≤ c ∧ c ≤ 'z') ∨ ('0' ≤ c ∧ c ≤ '9') ∨ c = '_'

theorem isSlugLetter_lower {c : Char} (above : 'A' ≤ c) (below : c ≤ 'Z') :
    IsSlugLetter (Char.ofNat (c.toNat + 32)) := by
  have least : 65 ≤ c.toNat := above
  have most : c.toNat ≤ 90 := below
  have letters : ∀ n ≤ 90, 65 ≤ n → 'a' ≤ Char.ofNat (n + 32) ∧ Char.ofNat (n + 32) ≤ 'z' := by
    decide
  exact .inl (letters c.toNat most least)

theorem isSlugLetter_slugChar {c : Char} (kept : isNameChar c = true) :
    IsSlugLetter (slugChar c) := by
  unfold slugChar
  split
  · exact .inr (.inr rfl)
  · rename_i apart
    split
    · rename_i upper
      simp only [Bool.and_eq_true, decide_eq_true_eq] at upper
      exact isSlugLetter_lower upper.1 upper.2
    · rename_i other
      simp only [isNameChar, isAsciiAlphanumeric, Bool.or_eq_true, Bool.and_eq_true,
        decide_eq_true_eq] at kept apart other
      rcases kept with ((((lower | upper) | digit) | bar) | space) | hyphen
      · exact .inl lower
      · exact absurd upper other
      · exact .inr (.inl digit)
      · exact .inr (.inr bar)
      · exact absurd (.inl space) apart
      · exact absurd (.inr hyphen) apart

theorem isSlugLetter_of_mem_slug {name : List Char} : ∀ c ∈ slug name, IsSlugLetter c := by
  intro c inside
  obtain ⟨d, filtered, rfl⟩ := List.mem_map.1 inside
  exact isSlugLetter_slugChar (List.mem_filter.1 filtered).2

theorem isBlank_of_isSlugLetter {c : Char} (letter : IsSlugLetter c) : isBlank c = false := by
  have apart : ∀ r ∈ blankRanges, r.2 < 48 ∨ 122 < r.1 := by decide
  have bounds : 48 ≤ c.toNat ∧ c.toNat ≤ 122 := by
    rcases letter with ⟨above, below⟩ | ⟨above, below⟩ | rfl
    · have least : 97 ≤ c.toNat := above
      have most : c.toNat ≤ 122 := below
      omega
    · have least : 48 ≤ c.toNat := above
      have most : c.toNat ≤ 57 := below
      omega
    · decide
  rw [Bool.eq_false_iff]
  intro blank
  obtain ⟨r, member, low, high⟩ := exists_of_inRanges blank
  have outside := apart r member
  omega

theorem toList_weaknessId (id name : String) :
    (weaknessId id name).toList = "@cwe_".toList ++ id.toList ++ '_' :: slug name.toList := by
  simp [weaknessId]

theorem isIdentifier_weaknessId (id name : String) :
    Identifier.isIdentifier (weaknessId id name) = true := by
  rw [Identifier.isIdentifier, toList_weaknessId]
  rfl

theorem isWord_weaknessId {id : String} (dark : ∀ c ∈ id.toList, isBlank c = false)
    (name : String) : IsWord (weaknessId id name).toList := by
  rw [toList_weaknessId]
  refine ⟨List.append_ne_nil_of_right_ne_nil _ (List.cons_ne_nil _ _), ?_⟩
  intro c inside
  rcases List.mem_append.1 inside with front | back
  · rcases List.mem_append.1 front with sign | number
    · have front : IsWord "@cwe_".toList := by decide
      exact front.2 c sign
    · exact dark c number
  · rcases List.mem_cons.1 back with rfl | letter
    · decide
    · exact isBlank_of_isSlugLetter (isSlugLetter_of_mem_slug c letter)

theorem contains_threats {c : Catalogue} {w : Item} (listed : w ∈ c.weaknesses) :
    c.threats.contains (weaknessId w.id w.name) = true := by
  refine SortedMap.contains_ofList.2 ⟨(weaknessId w.id w.name, w.toThreat w.name none), ?_, rfl⟩
  exact List.mem_map_of_mem listed

end ThreatModel.Catalogue
