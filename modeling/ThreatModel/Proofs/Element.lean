import ThreatModel.Element
import ThreatModel.Proofs.SortedMap
import ThreatModel.Tag.Kind

namespace ThreatModel

def StanceKind.tagKind : StanceKind → TagKind
  | mitigation => .mitigates
  | exposure => .exposes
  | transfer => .transfers
  | acceptance => .accepts

def Element.kind : Element → TagKind
  | stance kind _ => kind.tagKind
  | review _ => .reviews

namespace Elements

open SortedMap

theorem get?_stances_addStance (es : Elements) (kind : StanceKind) (key : String) (s : Stance)
    (k : StanceKind) (i : String) :
    ((es.addStance kind key s).stances k).get? i =
      if k = kind ∧ i = key then some (((es.stances k).get? i).getD [] ++ [s])
      else (es.stances k).get? i := by
  by_cases here : i = key
  · subst here
    cases kind <;> cases k <;> simp [addStance, stances, get?_push]
  · cases kind <;> cases k <;> simp [addStance, stances, get?_push, here]

theorem reviews_addStance (es : Elements) (kind : StanceKind) (key : String) (s : Stance) :
    (es.addStance kind key s).reviews = es.reviews := by
  cases kind <;> rfl

theorem stances_addReview (es : Elements) (key : String) (review : Review) (k : StanceKind) :
    (es.addReview key review).stances k = es.stances k := by
  cases k <;> rfl

theorem get?_reviews_addReview (es : Elements) (key : String) (review : Review) (i : String) :
    (es.addReview key review).reviews.get? i =
      if i = key then some ((es.reviews.get? i).getD [] ++ [review]) else es.reviews.get? i := by
  by_cases here : i = key
  · subst here
    simp [addReview, get?_push]
  · simp [addReview, get?_push, here]

theorem mem_toList_stance {es : Elements} {kind : StanceKind} {s : Stance} :
    .stance kind s ∈ es.toList ↔ s ∈ (es.stances kind).values.flatten := by
  cases kind <;> simp [toList, stances, -List.mem_flatten, -List.map_flatten]

theorem mem_toList_review {es : Elements} {r : Review} :
    .review r ∈ es.toList ↔ r ∈ es.reviews.values.flatten := by
  simp [toList, -List.mem_flatten, -List.map_flatten]

theorem mem_values_flatten {α : Type} {m : ElementMap α} {x : α} :
    x ∈ m.values.flatten ↔ ∃ group ∈ m.entries, x ∈ group.2 := by
  simp only [values, List.mem_flatten, List.mem_map]
  constructor
  · intro h
    obtain ⟨_, ⟨group, held, rfl⟩, member⟩ := h
    exact ⟨group, held, member⟩
  · intro h
    obtain ⟨group, held, member⟩ := h
    exact ⟨group.2, ⟨group, held, rfl⟩, member⟩

theorem mem_values_iff_get? {α : Type} {m : ElementMap α} {x : α} :
    x ∈ m.values.flatten ↔ ∃ key, x ∈ (m.get? key).getD [] := by
  simp only [mem_values_flatten, Prod.exists, ← get?_eq_some]
  refine exists_congr fun key => ?_
  cases m.get? key <;> simp

theorem stance_mem_toList {es : Elements} {kind : StanceKind} {group : String × List Stance}
    {s : Stance} (held : group ∈ (es.stances kind).entries) (member : s ∈ group.2) :
    .stance kind s ∈ es.toList :=
  mem_toList_stance.2 (mem_values_flatten.2 ⟨group, held, member⟩)

theorem review_mem_toList {es : Elements} {group : String × List Review} {r : Review}
    (held : group ∈ es.reviews.entries) (member : r ∈ group.2) : .review r ∈ es.toList :=
  mem_toList_review.2 (mem_values_flatten.2 ⟨group, held, member⟩)

theorem forall_mem_toList {es : Elements} {P : Element → Prop} :
    (∀ e ∈ es.toList, P e) ↔
      (∀ kind, ∀ group ∈ (es.stances kind).entries, ∀ s ∈ group.2, P (.stance kind s)) ∧
        ∀ group ∈ es.reviews.entries, ∀ r ∈ group.2, P (.review r) := by
  constructor
  · intro h
    constructor
    · intro kind group held s member
      exact h _ (stance_mem_toList held member)
    · intro group held r member
      exact h _ (review_mem_toList held member)
  · intro h e member
    cases e with
    | stance kind s =>
      obtain ⟨group, held, inside⟩ := mem_values_flatten.1 (mem_toList_stance.1 member)
      exact h.1 kind group held s inside
    | review r =>
      obtain ⟨group, held, inside⟩ := mem_values_flatten.1 (mem_toList_review.1 member)
      exact h.2 group held r inside

def record (es : Elements) (key : String) : Element → Elements
  | .stance kind s => es.addStance kind key s
  | .review review => es.addReview key review

theorem mem_values_push {α : Type} {m : ElementMap α} {key : String} {x y : α} :
    y ∈ (m.push key x).values.flatten ↔ y ∈ m.values.flatten ∨ y = x := by
  have grown (i : String) : ((m.push key x).get? i).getD [] =
      (m.get? i).getD [] ++ if i = key then [x] else [] := by
    rw [get?_push]
    by_cases here : i = key <;> simp [here]
  simp only [mem_values_iff_get?, grown, List.mem_append, exists_or]
  refine or_congr_right ⟨?_, ?_⟩
  · intro h
    obtain ⟨i, member⟩ := h
    split at member
    · exact List.mem_singleton.1 member
    · cases member
  · intro same
    exact ⟨key, by simp [same]⟩

theorem mem_values_mergeWith {α : Type} {m n : ElementMap α} {x : α} :
    x ∈ (m.mergeWith (· ++ ·) n).values.flatten ↔
      x ∈ m.values.flatten ∨ x ∈ n.values.flatten := by
  have joined (key : String) : ((m.mergeWith (· ++ ·) n).get? key).getD [] =
      (m.get? key).getD [] ++ (n.get? key).getD [] := by
    rw [get?_mergeWith]
    cases m.get? key <;> cases n.get? key <;> simp
  simp only [mem_values_iff_get?, joined, List.mem_append, exists_or]

theorem mem_toList_merge {es fs : Elements} {e : Element} :
    e ∈ (es.merge fs).toList ↔ e ∈ es.toList ∨ e ∈ fs.toList := by
  cases e with
  | stance kind s =>
    simp only [mem_toList_stance]
    cases kind <;> exact mem_values_mergeWith
  | review r =>
    simp only [mem_toList_review]
    exact mem_values_mergeWith

theorem mem_toList_record {es : Elements} {key : String} {e x : Element} :
    x ∈ (es.record key e).toList ↔ x ∈ es.toList ∨ x = e := by
  cases x with
  | stance k t =>
    rw [mem_toList_stance, mem_toList_stance]
    cases e with
    | stance kind s =>
      cases k <;> cases kind <;>
        simp [record, addStance, stances, mem_values_push, -List.mem_flatten]
    | review review => simp [record, stances_addReview]
  | review t =>
    rw [mem_toList_review, mem_toList_review]
    cases e with
    | stance kind s => simp [record, reviews_addStance]
    | review review => simp [record, addReview, mem_values_push, -List.mem_flatten]

def listedStances (es : Elements) (kind : StanceKind) (key : String) : Option (List Element) :=
  ((es.stances kind).get? key).map (·.map (.stance kind))

def listed (es : Elements) (kind : TagKind) (key : String) : Option (List Element) :=
  match kind with
  | .mitigates => es.listedStances .mitigation key
  | .exposes => es.listedStances .exposure key
  | .accepts => es.listedStances .acceptance key
  | .transfers => es.listedStances .transfer key
  | .reviews => (es.reviews.get? key).map (·.map .review)
  | .aliases | .describes | .connects => none

theorem listedStances_addStance (es : Elements) (kind : StanceKind) (key : String) (s : Stance)
    (k : StanceKind) (i : String) :
    (es.addStance kind key s).listedStances k i =
      if k = kind ∧ i = key then some ((es.listedStances k i).getD [] ++ [.stance kind s])
      else es.listedStances k i := by
  unfold listedStances
  rw [get?_stances_addStance]
  by_cases here : k = kind ∧ i = key
  · obtain ⟨rfl, rfl⟩ := here
    cases (es.stances k).get? i <;> simp
  · rw [if_neg here, if_neg here]

theorem listed_record (es : Elements) (key : String) (e : Element) (kind : TagKind) (i : String) :
    (es.record key e).listed kind i =
      if kind = e.kind ∧ i = key then some ((es.listed kind i).getD [] ++ [e])
      else es.listed kind i := by
  cases e with
  | stance k s =>
    cases kind <;> cases k <;>
      simp [record, listed, listedStances_addStance, reviews_addStance, Element.kind,
        StanceKind.tagKind]
  | review review =>
    by_cases here : i = key
    · subst here
      cases kind <;>
        simp [record, listed, listedStances, stances_addReview, get?_reviews_addReview, Element.kind]
      cases es.reviews.get? i <;> simp
    · cases kind <;>
        simp [record, listed, listedStances, stances_addReview, get?_reviews_addReview,
          Element.kind, here]

end Elements

end ThreatModel
