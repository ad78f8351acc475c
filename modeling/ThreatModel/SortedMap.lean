namespace ThreatModel

/-- Keys are linearly ordered by `<`. -/
class OrderedKey (κ : Type) [LT κ] : Prop where
  irrefl : ∀ a : κ, ¬ a < a
  trans : ∀ {a b c : κ}, a < b → b < c → a < c
  connex : ∀ {a b : κ}, ¬ a < b → ¬ b < a → a = b

instance : OrderedKey Nat where
  irrefl := Nat.lt_irrefl
  trans := Nat.lt_trans
  connex := by intro a b h k; omega

instance : OrderedKey String where
  irrefl a := Std.Irrefl.irrefl (r := (· < ·)) a
  trans h k := Trans.trans h k
  connex h k := Std.Trichotomous.trichotomous (r := (· < ·)) _ _ h k

structure SortedMap (κ ν : Type) [LT κ] where
  entries : List (κ × ν)
  sorted : entries.Pairwise fun a b => a.1 < b.1

namespace SortedMap

variable {κ ν μ : Type} [LT κ]

theorem ext {m n : SortedMap κ ν} (h : m.entries = n.entries) : m = n := by
  cases m; cases n; cases h; rfl

instance [DecidableEq κ] [DecidableEq ν] : DecidableEq (SortedMap κ ν) := fun m n =>
  if h : m.entries = n.entries then .isTrue (ext h) else .isFalse fun e => h (e ▸ rfl)

def empty : SortedMap κ ν := ⟨[], .nil⟩

instance : EmptyCollection (SortedMap κ ν) := ⟨empty⟩
instance : Inhabited (SortedMap κ ν) := ⟨∅⟩

def keys (m : SortedMap κ ν) : List κ := m.entries.map (·.1)

def values (m : SortedMap κ ν) : List ν := m.entries.map (·.2)

def size (m : SortedMap κ ν) : Nat := m.entries.length

def isEmpty (m : SortedMap κ ν) : Bool := m.entries.isEmpty

def mapValues (f : κ → ν → μ) (m : SortedMap κ ν) : SortedMap κ μ where
  entries := m.entries.map fun e => (e.1, f e.1 e.2)
  sorted := List.pairwise_map.2 (m.sorted.imp fun h => h)

def ofPositions (vs : List ν) : SortedMap Nat ν where
  entries := vs.zipIdx.map fun (v, i) => (i, v)
  sorted := by
    have h : (vs.zipIdx.map (·.2)).Pairwise (· < ·) := by
      rw [List.zipIdx_map_snd]; exact List.pairwise_lt_range'
    rw [List.pairwise_map] at h ⊢
    exact h

variable [DecidableLT κ]

def lookupEntry (k : κ) : List (κ × ν) → Option ν
  | [] => none
  | (a, v) :: rest => if a < k then lookupEntry k rest else if k < a then none else some v

/-- Replaces the value at `k`, or adds one at its place; `f` sees the value held so far. -/
def upsertEntry (k : κ) (f : Option ν → ν) : List (κ × ν) → List (κ × ν)
  | [] => [(k, f none)]
  | (a, v) :: rest =>
    if a < k then (a, v) :: upsertEntry k f rest
    else if k < a then (k, f none) :: (a, v) :: rest
    else (a, f (some v)) :: rest

theorem mem_upsertEntry {k : κ} {f : Option ν → ν} {e : κ × ν} {es : List (κ × ν)}
    (h : e ∈ upsertEntry k f es) : e.1 = k ∨ ∃ d ∈ es, d.1 = e.1 := by
  induction es with
  | nil => simp only [upsertEntry, List.mem_singleton] at h; exact .inl (h ▸ rfl)
  | cons d rest ih =>
    obtain ⟨a, v⟩ := d
    simp only [upsertEntry] at h
    split at h
    · rcases List.mem_cons.1 h with rfl | h
      · exact .inr ⟨_, List.mem_cons_self, rfl⟩
      · rcases ih h with h | ⟨d, hd, h⟩
        · exact .inl h
        · exact .inr ⟨d, List.mem_cons_of_mem _ hd, h⟩
    · split at h
      · rcases List.mem_cons.1 h with rfl | h
        · exact .inl rfl
        · exact .inr ⟨e, h, rfl⟩
      · rcases List.mem_cons.1 h with rfl | h
        · exact .inr ⟨(a, v), List.mem_cons_self, rfl⟩
        · exact .inr ⟨e, List.mem_cons_of_mem _ h, rfl⟩

variable [OrderedKey κ]

theorem sorted_upsertEntry {k : κ} {f : Option ν → ν} {es : List (κ × ν)}
    (h : es.Pairwise fun a b => a.1 < b.1) :
    (upsertEntry k f es).Pairwise fun a b => a.1 < b.1 := by
  induction es with
  | nil => simp [upsertEntry]
  | cons d rest ih =>
    obtain ⟨a, v⟩ := d
    have ⟨first, later⟩ := List.pairwise_cons.1 h
    simp only [upsertEntry]
    split
    · rename_i ak
      refine List.pairwise_cons.2 ⟨fun e he => ?_, ih later⟩
      rcases mem_upsertEntry he with e1 | ⟨d, hd, e1⟩
      · exact e1 ▸ ak
      · exact e1 ▸ first d hd
    · split
      · rename_i ka
        refine List.pairwise_cons.2 ⟨fun e he => ?_, h⟩
        rcases List.mem_cons.1 he with rfl | he
        · exact ka
        · exact OrderedKey.trans ka (first e he)
      · exact List.pairwise_cons.2 ⟨first, later⟩

def get? (m : SortedMap κ ν) (k : κ) : Option ν := lookupEntry k m.entries

def contains (m : SortedMap κ ν) (k : κ) : Bool := (m.get? k).isSome

def upsert (m : SortedMap κ ν) (k : κ) (f : Option ν → ν) : SortedMap κ ν :=
  ⟨upsertEntry k f m.entries, sorted_upsertEntry m.sorted⟩

def insert (m : SortedMap κ ν) (k : κ) (v : ν) : SortedMap κ ν := m.upsert k fun _ => v

/-- Sets the value at `k` unless there is one; the first value set stays. -/
def insertNew (m : SortedMap κ ν) (k : κ) (v : ν) : SortedMap κ ν := m.upsert k (·.getD v)

/-- Entries are set from left to right, so a repeated key keeps its last value. -/
def ofList (es : List (κ × ν)) : SortedMap κ ν := es.foldl (fun m e => m.insert e.1 e.2) ∅

/-- All entries of both maps; `f` joins the two values of a common key. -/
def mergeWith (f : ν → ν → ν) (m n : SortedMap κ ν) : SortedMap κ ν :=
  n.entries.foldl (fun m e => m.upsert e.1 fun old => old.elim e.2 (f · e.2)) m

def union (m n : SortedMap κ ν) : SortedMap κ ν := m.mergeWith (fun v _ => v) n

def push (m : SortedMap κ (List ν)) (k : κ) (v : ν) : SortedMap κ (List ν) :=
  m.upsert k fun old => old.getD [] ++ [v]

omit [OrderedKey κ] in
@[simp] theorem get?_empty (k : κ) : (∅ : SortedMap κ ν).get? k = none := rfl

theorem lookupEntry_upsertEntry (k i : κ) (f : Option ν → ν) (es : List (κ × ν))
    (h : es.Pairwise fun a b => a.1 < b.1) [Decidable (i = k)] :
    lookupEntry i (upsertEntry k f es) =
      if i = k then some (f (lookupEntry k es)) else lookupEntry i es := by
  induction es with
  | nil =>
    by_cases e : i = k
    · subst e; simp [upsertEntry, lookupEntry, OrderedKey.irrefl]
    · simp only [upsertEntry, lookupEntry, e, if_false]
      split
      · rfl
      · split
        · rfl
        · exact absurd (OrderedKey.connex ‹_› ‹_›) e
  | cons d rest ih =>
    obtain ⟨a, v⟩ := d
    have ⟨first, later⟩ := List.pairwise_cons.1 h
    have ih := ih later
    simp only [upsertEntry]
    by_cases ak : a < k
    · simp only [ak, if_true, lookupEntry]
      by_cases e : i = k
      · subst e; simpa [ak] using ih
      · simp only [e, if_false] at ih ⊢; rw [ih]
    · by_cases ka : k < a
      · simp only [ak, ka, if_true, if_false, lookupEntry]
        by_cases e : i = k
        · subst e; simp [OrderedKey.irrefl]
        · simp only [e, if_false]
          by_cases ki : k < i
          · simp [ki]
          · have ik : i < k := by
              by_cases ik : i < k
              · exact ik
              · exact absurd (OrderedKey.connex ik ki) e
            have ia : i < a := OrderedKey.trans ik ka
            have ai : ¬ a < i := fun ai => OrderedKey.irrefl _ (OrderedKey.trans ia ai)
            simp [ki, ik, ia, ai]
      · have e : a = k := OrderedKey.connex ak ka
        subst e
        simp only [OrderedKey.irrefl, if_false, lookupEntry]
        by_cases e : i = a
        · subst e; simp [OrderedKey.irrefl]
        · simp only [e, if_false]
          split
          · rfl
          · split
            · rfl
            · exact absurd (OrderedKey.connex ‹_› ‹_›) e

theorem get?_upsert (m : SortedMap κ ν) (k i : κ) (f : Option ν → ν) [Decidable (i = k)] :
    (m.upsert k f).get? i = if i = k then some (f (m.get? k)) else m.get? i :=
  lookupEntry_upsertEntry k i f m.entries m.sorted

theorem get?_insert (m : SortedMap κ ν) (k i : κ) (v : ν) [Decidable (i = k)] :
    (m.insert k v).get? i = if i = k then some v else m.get? i := get?_upsert m k i _

theorem get?_insertNew (m : SortedMap κ ν) (k i : κ) (v : ν) [Decidable (i = k)] :
    (m.insertNew k v).get? i = if i = k then some ((m.get? k).getD v) else m.get? i :=
  get?_upsert m k i _

theorem lookupEntry_eq_some {k : κ} {v : ν} {es : List (κ × ν)}
    (h : es.Pairwise fun a b => a.1 < b.1) : lookupEntry k es = some v ↔ (k, v) ∈ es := by
  induction es with
  | nil => simp [lookupEntry]
  | cons d rest ih =>
    obtain ⟨a, w⟩ := d
    have ⟨first, later⟩ := List.pairwise_cons.1 h
    simp only [lookupEntry, List.mem_cons, Prod.mk.injEq]
    by_cases ak : a < k
    · have ne : k ≠ a := fun e => OrderedKey.irrefl _ (e ▸ ak)
      simp [ak, ne, ih later]
    · by_cases ka : k < a
      · have ne : k ≠ a := fun e => OrderedKey.irrefl _ (e ▸ ka)
        simp only [ak, ka, if_true, if_false, ne, false_and, false_or]
        refine ⟨fun e => (by cases e), fun he => ?_⟩
        exact absurd (OrderedKey.trans ka (first _ he)) (OrderedKey.irrefl k)
      · have e : a = k := OrderedKey.connex ak ka
        subst e
        simp only [OrderedKey.irrefl, if_false, Option.some.injEq, true_and]
        refine ⟨fun e => .inl e.symm, fun he => he.elim (·.symm) fun he => ?_⟩
        exact absurd (first _ he) (OrderedKey.irrefl a)

theorem get?_eq_some {m : SortedMap κ ν} {k : κ} {v : ν} :
    m.get? k = some v ↔ (k, v) ∈ m.entries := lookupEntry_eq_some m.sorted

omit [DecidableLT κ] in
theorem entries_eq {es fs : List (κ × ν)} (he : es.Pairwise fun a b => a.1 < b.1)
    (hf : fs.Pairwise fun a b => a.1 < b.1) (same : ∀ e, e ∈ es ↔ e ∈ fs) : es = fs := by
  induction es generalizing fs with
  | nil =>
    cases fs with
    | nil => rfl
    | cons f fs => exact absurd ((same f).2 List.mem_cons_self) (by simp)
  | cons e es ih =>
    cases fs with
    | nil => exact absurd ((same e).1 List.mem_cons_self) (by simp)
    | cons f fs =>
      have ⟨ef, el⟩ := List.pairwise_cons.1 he
      have ⟨ff, fl⟩ := List.pairwise_cons.1 hf
      have head : e = f := by
        rcases List.mem_cons.1 ((same e).1 List.mem_cons_self) with h | h
        · exact h
        · rcases List.mem_cons.1 ((same f).2 List.mem_cons_self) with k | k
          · exact k.symm
          · exact absurd (OrderedKey.trans (ff e h) (ef f k)) (OrderedKey.irrefl _)
      subst head
      congr 1
      refine ih el fl fun d => ⟨fun hd => ?_, fun hd => ?_⟩
      · rcases List.mem_cons.1 ((same d).1 (List.mem_cons_of_mem _ hd)) with rfl | h
        · exact absurd (ef _ hd) (OrderedKey.irrefl _)
        · exact h
      · rcases List.mem_cons.1 ((same d).2 (List.mem_cons_of_mem _ hd)) with rfl | h
        · exact absurd (ff _ hd) (OrderedKey.irrefl _)
        · exact h

theorem ext_get? {m n : SortedMap κ ν} (h : ∀ k, m.get? k = n.get? k) : m = n :=
  ext (entries_eq m.sorted n.sorted fun e => by
    rw [← get?_eq_some (k := e.1) (v := e.2), ← get?_eq_some (k := e.1) (v := e.2), h])

end SortedMap

end ThreatModel
