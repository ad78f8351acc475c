import ThreatModel.Catalogue.Format

namespace ThreatModel.Catalogue

def itemElements (root : Xml) : List Xml :=
  listed root "Weaknesses" "Weakness" ++ listed root "Categories" "Category" ++
    listed root "Views" "View"

def items (c : Catalogue) : List Item := c.weaknesses ++ c.categories ++ c.views

theorem exists_root_of_ofText {text : String} {c : Catalogue} (read : ofText text = .ok c) :
    ∃ root, Xml.ofText? text = some root ∧ c.items = (itemElements root).map item := by
  unfold ofText at read
  split at read
  · cases read
  · next root tree =>
    split at read
    · cases read
    · dsimp only at read
      split at read
      · cases read
      · obtain rfl := Except.ok.inj read
        exact ⟨root, tree, by simp [items, itemElements]⟩

theorem ofText_eq_ok {text : String} {cs : List Char} (spelled : text = .ofList cs) {c : Catalogue}
    (nonempty : c.weaknesses ≠ [])
    (read : (Text.Reader.readAll? (Xml.document (cs.length + 1)) cs).any (fun root =>
      root.name? = some "Weakness_Catalog" ∧
        (listed root "Weaknesses" "Weakness").map item = c.weaknesses ∧
        (listed root "Categories" "Category").map item = c.categories ∧
        (listed root "Views" "View").map item = c.views) = true) :
    ofText text = .ok c := by
  obtain ⟨root, parsed, holds⟩ := (Option.any_eq_true _ _).1 read
  obtain ⟨named, weaknesses, categories, views⟩ := of_decide_eq_true holds
  have tree : Xml.ofText? text = some root := by
    rw [spelled, Xml.ofText?, String.toList_ofList]
    exact parsed
  unfold ofText
  rw [tree]
  simp [named, weaknesses, categories, views, nonempty]

end ThreatModel.Catalogue
