import ThreatModel.Proofs.Catalogue.Identifiers

namespace ThreatModel.Catalogue

open SortedMap

def above? (c : Catalogue) (view category : Item) : Option Item :=
  (category.relationships.filter fun r => r.views.contains view.id).findSome? fun r =>
    c.categories.find? fun t => t.id = r.target

def categoryEntry (category : Item) (parent : String) : String × Entry :=
  (categoryId category.name, category.toThreat (categoryName category.name) (some parent))

def memberEntries (c : Catalogue) (view : Item) : List (String × Entry) :=
  (c.categories.filter (hasMember view)).map fun k => categoryEntry k faultPatternRoot

def underEntries (c : Catalogue) (view : Item) : List (String × Entry) :=
  c.categories.filterMap fun k =>
    (c.above? view k).map fun t => categoryEntry k (categoryId t.name)

def categoryEntries (c : Catalogue) (view : Item) : List (String × Entry) :=
  c.memberEntries view ++ c.underEntries view

def clusterIds (c : Catalogue) (view : Item) : SortedMap String String :=
  .ofList ((c.placedCategories view).map fun p => (p.1.id, categoryId p.1.name))

def clusterEntries (c : Catalogue) (view : Item) : List (String × Entry) :=
  c.weaknesses.filterMap fun w => (weaknessParent? (c.clusterIds view) w).map fun parent =>
    (weaknessId w.id w.name, w.toThreat w.name (some parent))

def clusterThreats (c : Catalogue) (view : Item) : SortedMap String Entry :=
  .ofList (c.categoryEntries view ++ c.clusterEntries view)

/-- The parent under an identifier: of the weaknesses in the clusters that have it the last decides,
or else of the categories that are below another one, or else it is that of a member of the view. -/
def parentOf? (c : Catalogue) (view : Item) (id : String) : Option String :=
  (c.weaknesses.reverse.findSome? fun w =>
    if weaknessId w.id w.name = id then weaknessParent? (c.clusterIds view) w else none).or <|
  (c.categories.reverse.findSome? fun k =>
    if categoryId k.name = id then (c.above? view k).map (categoryId ·.name) else none).or <|
  if c.categories.any fun k => hasMember view k && categoryId k.name = id then
    some faultPatternRoot
  else none

theorem find?_key {α β : Type} [DecidableEq β] {f : α → β} {xs : List α}
    (distinct : (xs.map f).Nodup) {x : α} (member : x ∈ xs) :
    (xs.find? fun y => f y = f x) = some x := by
  cases found : xs.find? fun y => f y = f x with
  | none =>
    have absent := List.find?_eq_none.1 found x member
    exact absurd (decide_eq_true rfl) absent
  | some y =>
    have same : f y = f x := by simpa using List.find?_some found
    rw [List.inj_on_of_nodup_map distinct (List.mem_of_find?_eq_some found) member same]

section Clusters

variable {c : Catalogue} {view k : Item}

theorem lookup_filterMap {κ ν α β : Type} [DecidableEq κ] (f : α → κ) (g : α → Option β)
    (e : α → β → ν) (xs : List α) (k : κ) :
    (xs.filterMap fun x => (g x).map fun y => (f x, e x y)).lookup k =
      xs.findSome? fun x => if f x = k then (g x).map (e x) else none := by
  induction xs with
  | nil => rfl
  | cons x xs ih =>
    rw [List.filterMap_cons, List.findSome?_cons, ← ih]
    cases g x with
    | none => simp
    | some y =>
      by_cases here : f x = k
      · simp [here]
      · have apart : (k == f x) = false := beq_eq_false_iff_ne.2 (Ne.symm here)
        rw [Option.map_some]
        dsimp only
        rw [List.lookup_cons, apart, if_neg here]

theorem map_parent_filterMap {α β : Type} (f : α → String) (g : α → Option β) {e : α → β → Entry}
    {parent : β → String} (above : ∀ x y, (e x y).parent = some (parent y)) (xs : List α)
    (id : String) :
    ((ofList (xs.filterMap fun x => (g x).map fun y => (f x, e x y))).get? id).map (·.parent) =
      (xs.reverse.findSome? fun x => if f x = id then (g x).map parent else none).map some := by
  rw [get?_ofList_reverse, ← List.filterMap_reverse, lookup_filterMap, List.map_findSome?,
    List.map_findSome?]
  congr 1
  funext x
  by_cases here : f x = id
  · simp only [Function.comp_apply, here, if_true, Option.map_map]
    exact congrArg (Option.map · (g x)) (funext (above x))
  · simp [here]

theorem map_parent_clusterEntries (id : String) :
    ((ofList (c.clusterEntries view)).get? id).map (·.parent) =
      (c.weaknesses.reverse.findSome? fun w =>
        if weaknessId w.id w.name = id then weaknessParent? (c.clusterIds view) w else none).map
        some := by
  have held := map_parent_filterMap (fun w : Item => weaknessId w.id w.name)
    (weaknessParent? (c.clusterIds view)) (e := fun w parent => w.toThreat w.name (some parent))
    (fun _ _ => rfl) c.weaknesses id
  simp only [Option.map_id'] at held
  exact held

theorem map_parent_underEntries (id : String) :
    ((ofList (c.underEntries view)).get? id).map (·.parent) =
      (c.categories.reverse.findSome? fun k =>
        if categoryId k.name = id then (c.above? view k).map (categoryId ·.name) else none).map
        some :=
  map_parent_filterMap (fun k : Item => categoryId k.name) (c.above? view)
    (e := fun k t => (categoryEntry k (categoryId t.name)).2) (fun _ _ => rfl) c.categories id

theorem map_parent_memberEntries (id : String) :
    ((ofList (c.memberEntries view)).get? id).map (·.parent) =
      (if c.categories.any fun k => hasMember view k && categoryId k.name = id then
        some faultPatternRoot else none).map some := by
  have first : (ofList (c.memberEntries view)).get? id =
      (c.categories.reverse.find? fun k => hasMember view k && categoryId k.name = id).map
        fun k => (categoryEntry k faultPatternRoot).2 := by
    rw [get?_ofList_reverse, memberEntries, ← List.map_reverse, ← List.filter_reverse]
    refine (lookup_map (fun k : Item => categoryId k.name) _ _ id).trans ?_
    simp only [List.find?_filter, Bool.decide_and, Bool.decide_eq_true]
    rfl
  have found : (c.categories.any fun k => hasMember view k && categoryId k.name = id) =
      (c.categories.reverse.find? fun k => hasMember view k && categoryId k.name = id).isSome := by
    rw [Bool.eq_iff_iff, ← List.any_reverse, List.any_eq_true, List.find?_isSome]
  rw [first, found, Option.map_map]
  cases c.categories.reverse.find? fun k => hasMember view k && categoryId k.name = id <;> rfl

theorem map_parent_get? (id : String) :
    ((c.clusterThreats view).get? id).map (·.parent) = (c.parentOf? view id).map some := by
  rw [clusterThreats, categoryEntries, get?_ofList_append, get?_ofList_append, Option.map_or,
    Option.map_or, map_parent_clusterEntries, map_parent_underEntries, map_parent_memberEntries,
    parentOf?, Option.map_or, Option.map_or]

theorem contains_clusterThreats (id : String) :
    (c.clusterThreats view).contains id = (c.parentOf? view id).isSome := by
  rw [contains, ← Option.isSome_map (f := (·.parent)), map_parent_get?, Option.isSome_map]

theorem exists_of_parentOf? {id parent : String} (next : c.parentOf? view id = some parent) :
    ∃ e, (c.clusterThreats view).get? id = some e ∧ e.parent = some parent := by
  have same : _ = (c.parentOf? view id).map some := map_parent_get? id
  rw [next, Option.map_some, Option.map_eq_some_iff] at same
  exact same

theorem parentOf?_of_get? {id : String} {e : Entry}
    (held : (c.clusterThreats view).get? id = some e) : c.parentOf? view id = e.parent := by
  have same : _ = (c.parentOf? view id).map some := map_parent_get? id
  rw [held, Option.map_some, eq_comm, Option.map_eq_some_iff] at same
  obtain ⟨parent, next, shape⟩ := same
  rw [next, ← shape]

theorem mem_of_above? {t : Item} (next : c.above? view k = some t) : t ∈ c.categories := by
  obtain ⟨r, _, found⟩ := List.exists_of_findSome?_eq_some next
  exact List.mem_of_find?_eq_some found

section Distinct

variable (distinct : (c.categories.map (·.id)).Nodup)

include distinct

theorem get?_categoryIds (number : String) :
    c.categoryIds.get? number =
      (c.categories.find? fun t => t.id = number).map (categoryId ·.name) := by
  have keys : (c.categories.map fun k => (k.id, categoryId k.name)).map (·.1) =
      c.categories.map (·.id) := List.map_map
  have once := List.nodup_iff_count_le_one.1 distinct number
  rw [categoryIds, get?_ofList (keys ▸ once), lookup_map]

theorem parentIn?_eq : c.parentIn? view k = (c.above? view k).map (categoryId ·.name) := by
  unfold parentIn? above?
  rw [List.map_findSome?]
  congr 1
  funext r
  exact get?_categoryIds distinct r.target

theorem get?_categoryIds_id (listed : k ∈ c.categories) :
    c.categoryIds.get? k.id = some (categoryId k.name) := by
  rw [get?_categoryIds distinct, find?_key distinct listed]
  rfl

theorem mem_placedCategories {parent : String} :
    (k, parent) ∈ c.placedCategories view ↔ k ∈ c.categories ∧
      ((hasMember view k = true ∧ parent = faultPatternRoot) ∨
        ∃ t, c.above? view k = some t ∧ parent = categoryId t.name) := by
  simp only [placedCategories, List.mem_append, List.mem_map, List.mem_filter, List.mem_filterMap,
    parentIn?_eq distinct, Option.map_map, Option.map_eq_some_iff, Function.comp_apply,
    Prod.mk.injEq]
  constructor
  · intro h
    rcases h with ⟨_, ⟨listed, member⟩, rfl, rfl⟩ | ⟨_, listed, t, next, rfl, rfl⟩
    · exact ⟨listed, .inl ⟨member, rfl⟩⟩
    · exact ⟨listed, .inr ⟨t, next, rfl⟩⟩
  · intro h
    rcases h with ⟨listed, ⟨member, rfl⟩ | ⟨t, next, rfl⟩⟩
    · exact .inl ⟨k, ⟨listed, member⟩, rfl, rfl⟩
    · exact .inr ⟨k, listed, t, next, rfl, rfl⟩

theorem parentOf?_eq_root_or {id parent : String} (next : c.parentOf? view id = some parent) :
    parent = faultPatternRoot ∨ ∃ t ∈ c.categories, parent = categoryId t.name := by
  rcases Option.or_eq_some_iff.1 next with weakness | ⟨_, later⟩
  · obtain ⟨w, _, found⟩ := List.exists_of_findSome?_eq_some weakness
    obtain ⟨_, inside⟩ := Option.ite_none_right_eq_some.1 found
    obtain ⟨r, _, held⟩ := List.exists_of_findSome?_eq_some inside
    obtain ⟨p, placed, shape⟩ := List.mem_map.1 (mem_of_get?_ofList held)
    obtain ⟨_, rfl⟩ := Prod.mk.inj shape
    exact .inr ⟨p.1, ((mem_placedCategories distinct).1 placed).1, rfl⟩
  rcases Option.or_eq_some_iff.1 later with under | ⟨_, member⟩
  · obtain ⟨j, _, found⟩ := List.exists_of_findSome?_eq_some under
    obtain ⟨_, inside⟩ := Option.ite_none_right_eq_some.1 found
    obtain ⟨t, above, rfl⟩ := Option.map_eq_some_iff.1 inside
    exact .inr ⟨t, mem_of_above? above, rfl⟩
  · obtain ⟨_, same⟩ := Option.ite_none_right_eq_some.1 member
    exact .inl (Option.some.inj same).symm

theorem map_placedCategories :
    (c.placedCategories view).map (fun p => categoryEntry p.1 p.2) = c.categoryEntries view := by
  simp only [categoryEntries, placedCategories, memberEntries, underEntries, List.map_append,
    List.map_map, List.map_filterMap, parentIn?_eq distinct, Option.map_map]
  rfl

theorem faultPatternThreats_eq
    (found : c.views.find? (fun v => v.name = faultPatternView) = some view) :
    c.faultPatternThreats = .ok (c.clusterThreats view) := by
  have named : ∀ p ∈ c.placedCategories view,
      (c.categoryIds.get? p.1.id).getD (categoryId p.1.name) = categoryId p.1.name := by
    intro p member
    rw [get?_categoryIds_id distinct ((mem_placedCategories distinct).1 member).1, Option.getD_some]
  have ids : (c.placedCategories view).map (fun p =>
      (p.1.id, (c.categoryIds.get? p.1.id).getD (categoryId p.1.name))) =
      (c.placedCategories view).map fun p => (p.1.id, categoryId p.1.name) :=
    List.map_congr_left fun p member => by rw [named p member]
  have entries : (c.placedCategories view).map (fun p =>
      ((c.categoryIds.get? p.1.id).getD (categoryId p.1.name),
        p.1.toThreat (categoryName p.1.name) (some p.2))) = c.categoryEntries view := by
    rw [← map_placedCategories distinct]
    exact List.map_congr_left fun p member => by rw [named p member]; rfl
  unfold faultPatternThreats
  rw [found]
  dsimp only
  rw [ids, entries]
  rfl

end Distinct

end Clusters

end ThreatModel.Catalogue
