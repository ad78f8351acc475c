import ThreatModel.SortedMap

namespace ThreatModel.SortedMap

variable {κ ν μ : Type} [LT κ] [DecidableLT κ] [OrderedKey κ]

@[simp] theorem get?_insert_self (m : SortedMap κ ν) (k : κ) (v : ν) :
    (m.insert k v).get? k = some v := by
  classical
  simp [get?_insert]

omit [OrderedKey κ] in
theorem contains_iff {m : SortedMap κ ν} {k : κ} : m.contains k = true ↔ ∃ v, m.get? k = some v :=
  Option.isSome_iff_exists

omit [OrderedKey κ] in
@[simp] theorem contains_empty (k : κ) : (∅ : SortedMap κ ν).contains k = false := rfl

theorem contains_insert (m : SortedMap κ ν) (k i : κ) (v : ν) [Decidable (i = k)] :
    (m.insert k v).contains i = (decide (i = k) || m.contains i) := by
  unfold contains
  rw [get?_insert]
  by_cases same : i = k <;> simp [same]

theorem contains_insertNew (m : SortedMap κ ν) (k i : κ) (v : ν) [Decidable (i = k)] :
    (m.insertNew k v).contains i = (decide (i = k) || m.contains i) := by
  unfold contains
  rw [get?_insertNew]
  by_cases same : i = k <;> simp [same]

omit [OrderedKey κ] in
@[simp] theorem get?_getD_empty (held : Option (SortedMap κ ν)) (k : κ) :
    (held.getD ∅).get? k = held.bind (·.get? k) := by
  cases held <;> rfl

theorem get?_push (m : SortedMap κ (List ν)) (k i : κ) (v : ν) [Decidable (i = k)] :
    (m.push k v).get? i = if i = k then some ((m.get? k).getD [] ++ [v]) else m.get? i :=
  get?_upsert m k i _

omit [DecidableLT κ] [OrderedKey κ] in
theorem mem_entries_ofPositions {vs : List ν} {i : Nat} {v : ν} :
    (i, v) ∈ (ofPositions vs).entries ↔ vs[i]? = some v := by
  simp only [ofPositions, List.mem_map, Prod.mk.injEq]
  constructor
  · intro h
    obtain ⟨⟨w, j⟩, member, rfl, rfl⟩ := h
    exact List.mk_mem_zipIdx_iff_getElem?.1 member
  · intro at_i
    exact ⟨(v, i), List.mk_mem_zipIdx_iff_getElem?.2 at_i, rfl, rfl⟩

theorem get?_ofPositions (vs : List ν) (i : Nat) : (ofPositions vs).get? i = vs[i]? := by
  ext v
  rw [get?_eq_some, mem_entries_ofPositions]

theorem contains_foldl_insertNew (f : μ → κ) (g : μ → ν) (xs : List μ) (m : SortedMap κ ν) (k : κ) :
    (xs.foldl (fun m x => m.insertNew (f x) (g x)) m).contains k = true ↔
      m.contains k = true ∨ ∃ x ∈ xs, f x = k := by
  classical
  induction xs generalizing m with
  | nil => simp
  | cons x xs ih =>
    rw [List.foldl_cons, ih, contains_insertNew]
    by_cases here : k = f x
    · simp [here]
    · simp [here, Ne.symm here]

theorem get?_mapValues (f : κ → ν → μ) (m : SortedMap κ ν) (k : κ) :
    (m.mapValues f).get? k = (m.get? k).map (f k) := by
  ext w
  simp only [get?_eq_some, mapValues, List.mem_map, Prod.mk.injEq, Option.map_eq_some_iff,
    Prod.exists]
  constructor
  · intro h
    obtain ⟨_, v, member, rfl, rfl⟩ := h
    exact ⟨v, member, rfl⟩
  · intro h
    obtain ⟨v, member, rfl⟩ := h
    exact ⟨k, v, member, rfl, rfl⟩

theorem upsert_of_get? {m : SortedMap κ ν} {k : κ} {v : ν} {f : Option ν → ν}
    (held : m.get? k = some v) (kept : f (some v) = v) : m.upsert k f = m := by
  classical
  refine ext_get? fun i => ?_
  rw [get?_upsert]
  by_cases here : i = k
  · rw [if_pos here, here, held, kept]
  · rw [if_neg here]

theorem upsert_eq_insert (m : SortedMap κ ν) (k : κ) (f : Option ν → ν) :
    m.upsert k f = m.insert k (f (m.get? k)) := by
  classical
  refine ext_get? fun i => ?_
  rw [get?_upsert, get?_insert]

theorem insertNew_of_contains {m : SortedMap κ ν} {k : κ} (known : m.contains k = true) (v : ν) :
    m.insertNew k v = m := by
  obtain ⟨w, held⟩ := contains_iff.1 known
  exact upsert_of_get? held rfl

theorem insertNew_eq (m : SortedMap κ ν) (k : κ) (v : ν) :
    m.insertNew k v = if m.contains k then m else m.insert k v := by
  split
  · exact insertNew_of_contains ‹_› v
  · rename_i unknown
    have absent : m.get? k = none := by simpa [contains] using unknown
    rw [insertNew, upsert_eq_insert, absent]
    rfl

theorem foldl_insertNew_of_contains {f : μ → κ} {g : μ → ν} {xs : List μ} {m : SortedMap κ ν}
    (known : ∀ x ∈ xs, m.contains (f x) = true) :
    xs.foldl (fun m x => m.insertNew (f x) (g x)) m = m := by
  induction xs with
  | nil => rfl
  | cons x xs ih =>
    rw [List.foldl_cons, insertNew_of_contains (known x List.mem_cons_self)]
    exact ih fun y member => known y (List.mem_cons_of_mem _ member)

theorem lookupEntry_cons {k a : κ} {v : ν} {rest : List (κ × ν)}
    (h : ((a, v) :: rest).Pairwise fun a b => a.1 < b.1) [Decidable (k = a)] :
    lookupEntry k ((a, v) :: rest) = if k = a then some v else lookupEntry k rest := by
  have ⟨first, later⟩ := List.pairwise_cons.1 h
  ext w
  rw [lookupEntry_eq_some h, List.mem_cons, Prod.mk.injEq]
  by_cases here : k = a
  · subst here
    have apart : (k, w) ∉ rest := fun member => OrderedKey.irrefl k (first _ member)
    simp [apart, eq_comm]
  · simp [here, lookupEntry_eq_some later]

theorem lookupEntry_eq_none {k : κ} {es : List (κ × ν)} (h : es.Pairwise fun a b => a.1 < b.1)
    (before : ∀ e ∈ es, k < e.1) : lookupEntry k es = none := by
  refine Option.eq_none_iff_forall_ne_some.2 fun v found => ?_
  exact OrderedKey.irrefl k (before _ ((lookupEntry_eq_some h).1 found))

theorem get?_foldl_upsert (f : ν → ν → ν) {es : List (κ × ν)}
    (h : es.Pairwise fun a b => a.1 < b.1) (m : SortedMap κ ν) (k : κ) :
    (es.foldl (fun m e => m.upsert e.1 fun old => old.elim e.2 (f · e.2)) m).get? k =
      (m.get? k).merge f (lookupEntry k es) := by
  classical
  induction es generalizing m with
  | nil => simp [lookupEntry]
  | cons e es ih =>
    obtain ⟨a, v⟩ := e
    obtain ⟨first, later⟩ := List.pairwise_cons.1 h
    rw [List.foldl_cons, ih later, get?_upsert, lookupEntry_cons h]
    by_cases here : k = a
    · subst here
      have absent := lookupEntry_eq_none later first
      cases held : m.get? k <;> simp [absent]
    · simp [here]

theorem get?_mergeWith (f : ν → ν → ν) (m n : SortedMap κ ν) (k : κ) :
    (m.mergeWith f n).get? k = (m.get? k).merge f (n.get? k) :=
  get?_foldl_upsert f n.sorted m k

theorem of_get?_mergeWith {P : κ → ν → Prop} {f : ν → ν → ν} {m n : SortedMap κ ν}
    (first : ∀ k v, m.get? k = some v → P k v) (second : ∀ k v, n.get? k = some v → P k v)
    (joined : ∀ k v w, P k v → P k w → P k (f v w)) (k : κ) (v : ν)
    (held : (m.mergeWith f n).get? k = some v) : P k v := by
  rw [get?_mergeWith] at held
  cases left : m.get? k with
  | none =>
    rw [left, Option.merge_none_left] at held
    exact second k v held
  | some a =>
    cases right : n.get? k with
    | none =>
      rw [left, right, Option.merge_none_right] at held
      exact first k v (left.trans held)
    | some b =>
      rw [left, right] at held
      rw [← Option.some.inj held]
      exact joined k a b (first k a left) (second k b right)

theorem ofList_entries (m : SortedMap κ ν) : ofList m.entries = m := by
  refine ext_get? fun k => ?_
  have last (e : κ × ν) : (fun old : Option ν => old.elim e.2 fun _ => e.2) = fun _ => e.2 := by
    funext old
    cases old <;> rfl
  have read := get?_foldl_upsert (fun _ w => w) m.sorted ∅ k
  simp only [last, get?_empty, Option.merge_none_left] at read
  exact read

theorem get?_union (m n : SortedMap κ ν) (k : κ) :
    (m.union n).get? k = (m.get? k).or (n.get? k) := by
  rw [union, get?_mergeWith]
  cases m.get? k <;> cases n.get? k <;> rfl

theorem mergeWith_assoc (f : ν → ν → ν) [assoc : Std.Associative f] (m n p : SortedMap κ ν) :
    (m.mergeWith f n).mergeWith f p = m.mergeWith f (n.mergeWith f p) := by
  refine ext_get? fun k => ?_
  simp only [get?_mergeWith]
  exact (Option.associative_merge f).assoc _ _ _

@[simp] theorem mergeWith_empty (f : ν → ν → ν) (m : SortedMap κ ν) : m.mergeWith f ∅ = m := rfl

@[simp] theorem union_empty (m : SortedMap κ ν) : m.union ∅ = m := rfl

theorem union_assoc (m n p : SortedMap κ ν) : (m.union n).union p = m.union (n.union p) := by
  refine ext_get? fun k => ?_
  simp only [get?_union, Option.or_assoc]

instance : Std.Associative (union : SortedMap κ ν → SortedMap κ ν → SortedMap κ ν) := ⟨union_assoc⟩

theorem mergeWith_self (f : ν → ν → ν) [idem : Std.IdempotentOp f] (m : SortedMap κ ν) :
    m.mergeWith f m = m := by
  refine ext_get? fun k => ?_
  rw [get?_mergeWith]
  cases m.get? k with
  | none => rfl
  | some v => exact congrArg some (idem.idempotent v)

/-- A map adds nothing to what it has been joined into, if that holds of its values. -/
theorem mergeWith_again {f : ν → ν → ν} [idem : Std.IdempotentOp f]
    (again : ∀ v w, f (f v w) v = f v w) (m n : SortedMap κ ν) :
    (m.mergeWith f n).mergeWith f m = m.mergeWith f n := by
  refine ext_get? fun k => ?_
  simp only [get?_mergeWith]
  cases m.get? k with
  | none => rw [Option.merge_none_right]
  | some v =>
    cases n.get? k with
    | none => exact congrArg some (idem.idempotent v)
    | some w => exact congrArg some (again v w)

instance : Std.IdempotentOp (union : SortedMap κ ν → SortedMap κ ν → SortedMap κ ν) where
  idempotent m :=
    have : Std.IdempotentOp fun v _ : ν => v := ⟨fun _ => rfl⟩
    mergeWith_self _ m

theorem union_again (m n : SortedMap κ ν) : (m.union n).union m = m.union n :=
  have : Std.IdempotentOp fun v _ : ν => v := ⟨fun _ => rfl⟩
  mergeWith_again (fun _ _ => rfl) m n

theorem union_insertNew (m n : SortedMap κ ν) (k : κ) (v : ν) :
    m.union (n.insertNew k v) = (m.union n).insertNew k v := by
  classical
  refine ext_get? fun i => ?_
  simp only [get?_union, get?_insertNew]
  by_cases here : i = k
  · subst here
    cases m.get? i <;> simp
  · simp [here]

theorem mergeWith_upsert (f : ν → ν → ν) (g : Option ν → ν) (m n : SortedMap κ ν) (k : κ)
    (inner : (m.get? k).merge f (some (g (n.get? k))) = some (g ((m.get? k).merge f (n.get? k)))) :
    m.mergeWith f (n.upsert k g) = (m.mergeWith f n).upsert k g := by
  classical
  refine ext_get? fun i => ?_
  simp only [get?_mergeWith, get?_upsert]
  by_cases here : i = k
  · subst here
    simp only [if_true]
    exact inner
  · simp [here]

theorem mergeWith_push (m n : SortedMap κ (List ν)) (k : κ) (v : ν) :
    m.mergeWith (· ++ ·) (n.push k v) = (m.mergeWith (· ++ ·) n).push k v := by
  apply mergeWith_upsert
  cases m.get? k <;> cases n.get? k <;> simp

theorem mergeWith_insert_insert (f : ν → ν → ν) (k : κ) (v w : ν) :
    ((∅ : SortedMap κ ν).insert k v).mergeWith f ((∅ : SortedMap κ ν).insert k w) =
      (∅ : SortedMap κ ν).insert k (f v w) := by
  classical
  refine ext_get? fun i => ?_
  simp only [get?_mergeWith, get?_insert]
  by_cases here : i = k <;> simp [here]

def erase [DecidableEq κ] (m : SortedMap κ ν) (k : κ) : SortedMap κ ν :=
  ⟨m.entries.filter (·.1 ≠ k), m.sorted.filter _⟩

theorem get?_erase [DecidableEq κ] (m : SortedMap κ ν) (k i : κ) :
    (m.erase k).get? i = if i = k then none else m.get? i := by
  ext v
  rw [get?_eq_some, erase, List.mem_filter, ← get?_eq_some]
  by_cases here : i = k <;> simp [here]

theorem mem_keys {m : SortedMap κ ν} {k : κ} : k ∈ m.keys ↔ m.contains k = true := by
  simp only [keys, List.mem_map, contains_iff, get?_eq_some, Prod.exists, exists_and_right,
    exists_eq_right]

theorem get?_foldl_push [DecidableEq κ] (f : μ → κ) (g : μ → ν) (xs : List μ)
    (m : SortedMap κ (List ν)) (k : κ) :
    ((xs.foldl (fun m x => m.push (f x) (g x)) m).get? k).getD [] =
      (m.get? k).getD [] ++ (xs.filter (f · = k)).map g := by
  induction xs generalizing m with
  | nil => simp
  | cons x xs ih =>
    rw [List.foldl_cons, ih, get?_push]
    by_cases here : f x = k
    · subst here
      simp
    · simp [here, Ne.symm here]

theorem contains_foldl_push (f : μ → κ) (g : μ → ν) (xs : List μ)
    (m : SortedMap κ (List ν)) (k : κ) :
    (xs.foldl (fun m x => m.push (f x) (g x)) m).contains k = true ↔
      m.contains k = true ∨ ∃ x ∈ xs, f x = k := by
  classical
  induction xs generalizing m with
  | nil => simp
  | cons x xs ih =>
    have grown : (m.push (f x) (g x)).contains k = (decide (k = f x) || m.contains k) := by
      unfold contains
      rw [get?_push]
      by_cases here : k = f x <;> simp [here]
    rw [List.foldl_cons, ih, grown]
    by_cases here : k = f x
    · simp [here]
    · simp [here, Ne.symm here]

end ThreatModel.SortedMap
