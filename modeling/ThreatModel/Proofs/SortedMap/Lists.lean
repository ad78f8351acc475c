import Mathlib.Data.List.Forall2
import Mathlib.Data.List.Nodup
import ThreatModel.Proofs.SortedMap

namespace ThreatModel.SortedMap

variable {κ ν μ : Type} [LT κ] [DecidableLT κ] [OrderedKey κ]

section Related

variable {r : ν → μ → Prop}

def SameKey (r : ν → μ → Prop) (e : κ × ν) (f : κ × μ) : Prop := e.1 = f.1 ∧ r e.2 f.2

omit [OrderedKey κ] in
theorem forall₂_upsertEntry {es : List (κ × ν)} {fs : List (κ × μ)}
    (pairs : List.Forall₂ (SameKey r) es fs) (k : κ) {v : ν} {w : μ} (new : r v w) :
    List.Forall₂ (SameKey r) (upsertEntry k (fun _ => v) es) (upsertEntry k (fun _ => w) fs) := by
  induction pairs with
  | nil => exact .cons ⟨rfl, new⟩ .nil
  | @cons e f es fs first later ih =>
    obtain ⟨a, x⟩ := e
    obtain ⟨b, y⟩ := f
    obtain ⟨same, held⟩ := first
    dsimp only at same
    subst same
    simp only [upsertEntry]
    split
    · exact .cons ⟨rfl, held⟩ ih
    · split
      · exact .cons ⟨rfl, new⟩ (.cons ⟨rfl, held⟩ later)
      · exact .cons ⟨rfl, new⟩ later

theorem forall₂_ofList {es : List (κ × ν)} {fs : List (κ × μ)}
    (pairs : List.Forall₂ (SameKey r) es fs) :
    List.Forall₂ (SameKey r) (ofList es).entries (ofList fs).entries := by
  suffices grown : ∀ (m : SortedMap κ ν) (n : SortedMap κ μ),
      List.Forall₂ (SameKey r) m.entries n.entries →
      List.Forall₂ (SameKey r) (es.foldl (fun m e => m.insert e.1 e.2) m).entries
        (fs.foldl (fun m e => m.insert e.1 e.2) n).entries from grown ∅ ∅ .nil
  induction pairs with
  | nil => exact fun _ _ held => held
  | @cons e f es fs first _ ih =>
    intro m n held
    obtain ⟨same, new⟩ := first
    have set := forall₂_upsertEntry held e.1 new
    refine ih (m.insert e.1 e.2) (n.insert f.1 f.2) ?_
    rw [← same]
    exact set

omit [DecidableLT κ] [OrderedKey κ] [LT κ] in
theorem rel_lookup [DecidableEq κ] {es : List (κ × ν)} {fs : List (κ × μ)}
    (pairs : List.Forall₂ (SameKey r) es fs) (k : κ) :
    Option.Rel r (es.lookup k) (fs.lookup k) := by
  induction pairs with
  | nil => exact .none
  | @cons e f es fs first _ ih =>
    obtain ⟨a, x⟩ := e
    obtain ⟨b, y⟩ := f
    obtain ⟨same, held⟩ := first
    dsimp only at same
    subst same
    rw [List.lookup_cons, List.lookup_cons]
    cases k == a with
    | true => exact .some held
    | false => exact ih

end Related

section Once

variable [DecidableEq κ]

theorem get?_foldl_insert {es : List (κ × ν)} {k : κ} (once : (es.map (·.1)).count k ≤ 1)
    (m : SortedMap κ ν) :
    (es.foldl (fun m e => m.insert e.1 e.2) m).get? k = (es.lookup k).or (m.get? k) := by
  induction es generalizing m with
  | nil => rfl
  | cons e es ih =>
    obtain ⟨a, v⟩ := e
    rw [List.map_cons, List.count_cons] at once
    rw [List.foldl_cons, ih (by omega), get?_insert, List.lookup_cons]
    by_cases here : k = a
    · subst here
      have absent : k ∉ es.map (·.1) := List.count_eq_zero.1 (by simpa using once)
      have later : es.lookup k = none := by
        rw [List.lookup_eq_none_iff]
        intro p member
        rw [bne_iff_ne]
        intro same
        exact absent (same ▸ List.mem_map_of_mem member)
      simp [later]
    · have apart : (k == a) = false := beq_eq_false_iff_ne.2 here
      simp [here, apart]

theorem get?_ofList {es : List (κ × ν)} {k : κ} (once : (es.map (·.1)).count k ≤ 1) :
    (ofList es).get? k = es.lookup k := by
  rw [ofList, get?_foldl_insert once, get?_empty, Option.or_none]

omit [LT κ] [DecidableLT κ] [OrderedKey κ] in
theorem lookup_map (f : μ → κ) (g : μ → ν) (xs : List μ) (k : κ) :
    (xs.map fun x => (f x, g x)).lookup k = (xs.find? fun x => f x = k).map g := by
  induction xs with
  | nil => rfl
  | cons x xs ih =>
    rw [List.map_cons, List.lookup_cons, List.find?_cons, ih]
    by_cases here : f x = k
    · simp [here]
    · have apart : (k == f x) = false := beq_eq_false_iff_ne.2 (Ne.symm here)
      simp [here, apart]

omit [LT κ] [DecidableLT κ] [OrderedKey κ] in
theorem lookup_reverse_cons (k a : κ) (v : ν) (es : List (κ × ν)) :
    ((a, v) :: es).reverse.lookup k = (es.reverse.lookup k).or (if k = a then some v else none) := by
  rw [List.reverse_cons, List.lookup_append, List.lookup_cons, List.lookup_nil]
  by_cases here : k = a
  · simp [here]
  · simp [here, beq_eq_false_iff_ne.2 here]

omit [LT κ] [DecidableLT κ] [OrderedKey κ] in
theorem mem_of_lookup {es : List (κ × ν)} {k : κ} {v : ν} (found : es.lookup k = some v) :
    (k, v) ∈ es := by
  obtain ⟨front, back, rfl, _⟩ := List.lookup_eq_some_iff.1 found
  exact List.mem_append_right front List.mem_cons_self

theorem get?_foldl_insert_reverse (es : List (κ × ν)) (m : SortedMap κ ν) (k : κ) :
    (es.foldl (fun m e => m.insert e.1 e.2) m).get? k = (es.reverse.lookup k).or (m.get? k) := by
  induction es generalizing m with
  | nil => rfl
  | cons e es ih =>
    rw [List.foldl_cons, ih, lookup_reverse_cons, Option.or_assoc, get?_insert]
    by_cases here : k = e.1 <;> simp [here]

theorem get?_ofList_reverse (es : List (κ × ν)) (k : κ) :
    (ofList es).get? k = es.reverse.lookup k := by
  rw [ofList, get?_foldl_insert_reverse, get?_empty, Option.or_none]

theorem mem_of_get?_ofList {es : List (κ × ν)} {k : κ} {v : ν} (held : (ofList es).get? k = some v) :
    (k, v) ∈ es := by
  rw [get?_ofList_reverse] at held
  exact List.mem_reverse.1 (mem_of_lookup held)

theorem contains_ofList {es : List (κ × ν)} {k : κ} :
    (ofList es).contains k = true ↔ ∃ e ∈ es, e.1 = k := by
  rw [contains, get?_ofList_reverse, List.lookup_isSome_iff]
  simp only [List.mem_reverse, beq_iff_eq, @eq_comm _ k]

theorem get?_ofList_append (es fs : List (κ × ν)) (k : κ) :
    (ofList (es ++ fs)).get? k = ((ofList fs).get? k).or ((ofList es).get? k) := by
  simp only [get?_ofList_reverse, List.reverse_append, List.lookup_append]

omit [LT κ] [DecidableLT κ] [OrderedKey κ] in
theorem lookup_eq_some_of_nodup {es : List (κ × ν)} (distinct : (es.map (·.1)).Nodup) {k : κ}
    {v : ν} : es.lookup k = some v ↔ (k, v) ∈ es := by
  induction es with
  | nil => simp
  | cons e es ih =>
    obtain ⟨a, w⟩ := e
    obtain ⟨fresh, later⟩ := List.nodup_cons.1 distinct
    rw [List.lookup_cons, List.mem_cons, Prod.mk.injEq]
    by_cases here : k = a
    · subst here
      have apart : (k, v) ∉ es := fun member => fresh (List.mem_map.2 ⟨(k, v), member, rfl⟩)
      simp [apart, eq_comm]
    · have apart : (k == a) = false := beq_eq_false_iff_ne.2 here
      simp [here, apart, ih later]

omit [DecidableLT κ] [DecidableEq κ] in
theorem nodup_keys (m : SortedMap κ ν) : (m.entries.map (·.1)).Nodup := by
  rw [List.Nodup, List.pairwise_map]
  refine m.sorted.imp fun less same => ?_
  rw [same] at less
  exact OrderedKey.irrefl _ less

theorem lookup_entries (m : SortedMap κ ν) (k : κ) : m.entries.lookup k = m.get? k := by
  ext v
  rw [lookup_eq_some_of_nodup m.nodup_keys, get?_eq_some]

omit [DecidableEq κ] in
theorem count_flatMap_entries [BEq μ] [LawfulBEq μ] {parts : κ × ν → List μ} {k : κ} {x : μ}
    (apart : ∀ a v, a ≠ k → x ∉ parts (a, v)) (m : SortedMap κ ν) :
    (m.entries.flatMap parts).count x = (m.get? k).elim 0 fun v => (parts (k, v)).count x := by
  classical
  suffices counted : ∀ es : List (κ × ν), es.Pairwise (fun a b => a.1 < b.1) →
      (es.flatMap parts).count x = (lookupEntry k es).elim 0 fun v => (parts (k, v)).count x from
    counted m.entries m.sorted
  intro es sorted
  induction es with
  | nil => rfl
  | cons e es ih =>
    obtain ⟨a, v⟩ := e
    obtain ⟨first, later⟩ := List.pairwise_cons.1 sorted
    rw [List.flatMap_cons, List.count_append, ih later, lookupEntry_cons sorted]
    by_cases here : k = a
    · subst here
      simp [lookupEntry_eq_none later first]
    · rw [List.count_eq_zero.2 (apart a v (Ne.symm here)), if_neg here, Nat.zero_add]

theorem perm_ofList {es : List (κ × ν)} (distinct : (es.map (·.1)).Nodup) :
    (ofList es).entries.Perm es := by
  refine (List.perm_ext_iff_of_nodup (ofList es).nodup_keys.of_map distinct.of_map).2 ?_
  intro e
  have once : (es.map (·.1)).count e.1 ≤ 1 := List.nodup_iff_count_le_one.1 distinct e.1
  rw [← get?_eq_some (k := e.1) (v := e.2), get?_ofList once, lookup_eq_some_of_nodup distinct]

end Once

section Contents

variable {parts : ν → List μ} {extra : List μ}

omit [OrderedKey κ] in
theorem perm_upsertEntry {k : κ} {f : Option ν → ν}
    (grown : ∀ old, (parts (f old)).Perm (old.elim [] parts ++ extra)) (es : List (κ × ν)) :
    ((upsertEntry k f es).flatMap (parts ·.2)).Perm (es.flatMap (parts ·.2) ++ extra) := by
  induction es with
  | nil => simpa [upsertEntry] using grown none
  | cons e es ih =>
    obtain ⟨a, v⟩ := e
    simp only [upsertEntry]
    by_cases before : a < k
    · simp only [before, if_true, List.flatMap_cons, List.append_assoc]
      exact ih.append_left (parts v)
    · by_cases after : k < a
      · simp only [before, after, if_true, if_false, List.flatMap_cons]
        have new : (parts (f none)).Perm extra := grown none
        exact (new.append_right _).trans List.perm_append_comm
      · simp only [before, after, if_false, List.flatMap_cons, List.append_assoc]
        have here : (parts (f (some v))).Perm (parts v ++ extra) := grown (some v)
        refine (here.append_right _).trans ?_
        rw [List.append_assoc]
        exact List.perm_append_comm.append_left (parts v)

/-- Nothing is lost in a merge, and nothing comes twice. -/
theorem perm_mergeWith {f : ν → ν → ν} (joined : ∀ v w, (parts (f v w)).Perm (parts v ++ parts w))
    (m n : SortedMap κ ν) :
    ((m.mergeWith f n).values.flatMap parts).Perm
      (m.values.flatMap parts ++ n.values.flatMap parts) := by
  have step (es : List (κ × ν)) (m : SortedMap κ ν) :
      ((es.foldl (fun m e => m.upsert e.1 fun old => old.elim e.2 (f · e.2)) m).entries.flatMap
        (parts ·.2)).Perm (m.entries.flatMap (parts ·.2) ++ es.flatMap (parts ·.2)) := by
    induction es generalizing m with
    | nil => simp
    | cons e es ih =>
      have grown : ∀ old : Option ν, (parts (old.elim e.2 (f · e.2))).Perm
          (old.elim [] parts ++ parts e.2) := by
        intro old
        cases old with
        | none => exact .refl _
        | some v => exact joined v e.2
      have added := perm_upsertEntry (k := e.1) grown m.entries
      refine (ih _).trans ?_
      rw [List.flatMap_cons, ← List.append_assoc]
      exact added.append_right _
  simp only [values, List.flatMap_map]
  exact step n.entries m

end Contents

end ThreatModel.SortedMap
