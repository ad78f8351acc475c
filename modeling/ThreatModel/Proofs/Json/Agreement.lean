import ThreatModel.Proofs.Json.Clash
import ThreatModel.Proofs.Json.Record
import ThreatModel.Proofs.SortedMap.Lists

namespace ThreatModel.Json

variable {α β : Type}

/-- Where the second result is there, the first is the same, but for a clash. -/
def Follows (clash : Bool) (a b : Option α) : Prop :=
  ∀ x, b = some x → a = if clash then none else some x

namespace Follows

variable {c d : Bool} {a b : Option α}

theorem refl (a : Option α) : Follows false a a := fun _ found => found

theorem bind (first : Follows c a b) {f g : α → Option β} (later : ∀ x, Follows d (f x) (g x)) :
    Follows (c || d) (a >>= f) (b >>= g) := by
  intro y found
  obtain ⟨x, here, next⟩ := Option.bind_eq_some_iff.1 found
  rw [first x here]
  cases c with
  | true => rfl
  | false => exact later x y next

theorem map (h : Follows c a b) (f : α → β) : Follows c (a.map f) (b.map f) := by
  intro y found
  obtain ⟨x, here, rfl⟩ := Option.map_eq_some_iff.1 found
  rw [h x here]
  cases c <;> rfl

theorem mapM {σ τ : Type} {related : σ → τ → Prop} {xs : List σ} {ys : List τ}
    (pairs : List.Forall₂ related xs ys) {p : σ → Option α} {q : τ → Option α} {clash : σ → Bool}
    (each : ∀ x y, related x y → Follows (clash x) (p x) (q y)) :
    Follows (xs.any clash) (xs.mapM p) (ys.mapM q) := by
  induction pairs with
  | nil => exact refl _
  | cons first _ ih =>
    rw [List.mapM_cons, List.mapM_cons, List.any_cons, ← Bool.or_false (List.any _ clash)]
    exact (each _ _ first).bind fun a => ih.bind fun as => refl _

end Follows

def Written.Gives (w : Written) (v : Json) : Prop := ∃ depth, ofWritten? depth w = some v

theorem forall₂_itemsOfWritten? {depth : Nat} {items : List Written} {xs : List Json}
    (read : itemsOfWritten? depth items = some xs) : List.Forall₂ Written.Gives items xs := by
  induction items generalizing xs with
  | nil =>
    obtain rfl := Option.some.inj read
    exact .nil
  | cons w items ih =>
    simp only [itemsOfWritten?, Option.bind_eq_bind, Option.bind_eq_some_iff, Option.pure_def,
      Option.some.injEq] at read
    obtain ⟨x, first, xs, later, rfl⟩ := read
    exact .cons ⟨depth, first⟩ (ih later)

theorem forall₂_fieldsOfWritten? {depth : Nat} {fields : List (List Char × Written)}
    {fs : List (String × Json)} (read : fieldsOfWritten? depth fields = some fs) :
    List.Forall₂ (Named Written.Gives) (fields.map fun (k, v) => (⟨k, text? k⟩, v)) fs := by
  induction fields generalizing fs with
  | nil =>
    obtain rfl := Option.some.inj read
    exact .nil
  | cons f fields ih =>
    obtain ⟨k, w⟩ := f
    simp only [fieldsOfWritten?, Option.bind_eq_bind, Option.bind_eq_some_iff, Option.pure_def,
      Option.some.injEq] at read
    obtain ⟨name, text, x, first, rest, later, rfl⟩ := read
    exact .cons (.intro text ⟨depth, first⟩) (ih later)

inductive SameLayer : Layer Written → Layer Json → Prop where
  | null : SameLayer .null .null
  | bool (b : Bool) : SameLayer (.bool b) (.bool b)
  | integer (i : Int) : SameLayer (.integer i) (.integer i)
  | string (s : String) : SameLayer (.string s) (.string s)
  | other : SameLayer .other .other
  | array {items : List Written} {xs : List Json} (each : List.Forall₂ Written.Gives items xs) :
      SameLayer (.array items) (.array xs)
  | object {given : List (Key × Written)} {fields : List (String × Json)}
      (each : List.Forall₂ (Named Written.Gives) given fields) :
      SameLayer (.object given)
        (.object ((SortedMap.ofList fields).entries.map fun (k, v) => (⟨k.toList, some k⟩, v)))

theorem sameLayer_of_gives {w : Written} {v : Json} (gives : w.Gives v) :
    SameLayer (layer w) (layer v) := by
  obtain ⟨depth, read⟩ := gives
  cases w with
  | null =>
    obtain rfl := Option.some.inj (ofWritten?.eq_1 depth ▸ read)
    exact .null
  | bool b =>
    obtain rfl := Option.some.inj (ofWritten?.eq_2 depth b ▸ read)
    exact .bool b
  | number n =>
    rw [ofWritten?, Numeral.number?] at read
    cases whole : n.integer? with
    | some i =>
      rw [whole] at read
      obtain rfl := Option.some.inj read
      have shown : layer (Written.number n) = .integer i := by simp [layer, whole]
      rw [shown]
      exact .integer i
    | none =>
      simp only [whole, Option.map_map, Option.map_eq_some_iff] at read
      obtain ⟨x, _, rfl⟩ := read
      have shown : layer (Written.number n) = .other := by simp [layer, whole]
      rw [shown]
      exact .other
  | string s =>
    rw [ofWritten?, Option.map_eq_some_iff] at read
    obtain ⟨t, text, rfl⟩ := read
    have shown : layer (Written.string s) = .string t := by simp [layer, text]
    rw [shown]
    exact .string t
  | array items =>
    cases depth with
    | zero => simp [ofWritten?] at read
    | succ depth =>
      rw [ofWritten?, Option.map_eq_some_iff] at read
      obtain ⟨xs, inner, rfl⟩ := read
      exact .array (forall₂_itemsOfWritten? inner)
  | object fields =>
    cases depth with
    | zero => simp [ofWritten?] at read
    | succ depth =>
      rw [ofWritten?, Option.map_eq_some_iff] at read
      obtain ⟨fs, inner, rfl⟩ := read
      exact .object (forall₂_fieldsOfWritten? inner)

theorem map_text?_eq {given : List (Key × Written)} {fields : List (String × Json)}
    (each : List.Forall₂ (Named Written.Gives) given fields) :
    given.map (fun g => g.1.text?) = (fields.map (·.1)).map some := by
  induction each with
  | nil => rfl
  | cons first _ ih =>
    cases first with
    | intro text _ => rw [List.map_cons, text, ih, List.map_cons, List.map_cons]

/-- Nothing is read of a clash, and something with the property else. -/
def ReadsUnless (clash : Bool) (a : Option α) (P : α → Prop) : Prop :=
  (clash = true ∧ a = none) ∨ (clash = false ∧ ∃ x, a = some x ∧ P x)

/-- The first reader makes of a text what the second makes of its value, but for clashes. -/
def Agree (p : Written → Option α) (q : Json → Option α) (clash : Clash) : Prop :=
  ∀ w v, w.Gives v → Follows (clash w) (p w) (q v)

theorem agree_asString? : Agree asString? asString? .never := by
  intro w v gives
  have same := sameLayer_of_gives gives
  unfold asString?
  generalize layer w = l at same ⊢
  generalize layer v = m at same ⊢
  cases same <;> exact .refl _

theorem agree_asInt64? : Agree asInt64? asInt64? .never := by
  intro w v gives
  have same := sameLayer_of_gives gives
  unfold asInt64?
  generalize layer w = l at same ⊢
  generalize layer v = m at same ⊢
  cases same <;> exact .refl _

theorem agree_asIndex? : Agree asIndex? asIndex? .never := by
  intro w v gives
  have same := sameLayer_of_gives gives
  unfold asIndex?
  generalize layer w = l at same ⊢
  generalize layer v = m at same ⊢
  cases same <;> exact .refl _

section Parts

variable {p : Written → Option α} {q : Json → Option α} {clash : Clash}

theorem agree_asOption? (part : Agree p q .never) : Agree (asOption? p) (asOption? q) .never := by
  intro w v gives
  have same := sameLayer_of_gives gives
  have some' := (part w v gives).map some
  unfold asOption?
  generalize layer w = l at same ⊢
  generalize layer v = m at same ⊢
  cases same with
  | null => exact .refl _
  | _ => exact some'

theorem agree_asList? (part : Agree p q clash) : Agree (asList? p) (asList? q) (.list clash) := by
  intro w v gives
  have same := sameLayer_of_gives gives
  show Follows (Clash.anyItem clash w) _ _
  unfold asList? Clash.anyItem
  generalize layer w = l at same ⊢
  generalize layer v = m at same ⊢
  cases same with
  | array each => exact .mapM each fun x y given => part x y given
  | _ => exact .refl _

theorem map_fst_eq {μ ν : Type} {r : ν → μ → Prop} {es : List (String × ν)}
    {fs : List (String × μ)} (pairs : List.Forall₂ (SortedMap.SameKey r) es fs) :
    es.map (·.1) = fs.map (·.1) := by
  induction pairs with
  | nil => rfl
  | cons first _ ih => rw [List.map_cons, List.map_cons, first.1, ih]

def keyed {σ : Type} (item : σ → Option α) (e : String × σ) : Option (String × α) := do
  pure (e.1, ← item e.2)

theorem mapM_isSome {σ : Type} {f : σ → Option α} {xs : List σ} :
    (xs.mapM f).isSome ↔ ∀ x ∈ xs, (f x).isSome := by
  induction xs with
  | nil => simp
  | cons x xs ih =>
    rw [List.mapM_cons, List.forall_mem_cons, ← ih]
    cases f x <;> cases xs.mapM f <;> simp

theorem mapM_eq_some_iff {σ : Type} {f : σ → Option α} {xs : List σ} {ys : List α} :
    xs.mapM f = some ys ↔ List.Forall₂ (fun x y => f x = some y) xs ys := by
  induction xs generalizing ys with
  | nil =>
    rw [List.forall₂_nil_left_iff, List.mapM_nil]
    exact Option.some_inj.trans eq_comm
  | cons x xs ih =>
    simp only [List.mapM_cons, List.forall₂_cons_left_iff, ← ih, Option.bind_eq_bind,
      Option.bind_eq_some_iff, Option.pure_def, Option.some_inj]
    constructor
    · intro h
      obtain ⟨y, first, ys, later, rfl⟩ := h
      exact ⟨y, ys, first, later, rfl⟩
    · intro h
      obtain ⟨y, ys, first, later, rfl⟩ := h
      exact ⟨y, first, ys, later, rfl⟩

theorem keyed_eq_some {σ : Type} {item : σ → Option α} {e : String × σ} {f : String × α} :
    keyed item e = some f ↔ SortedMap.SameKey (fun v a => item v = some a) e f := by
  obtain ⟨k, v⟩ := e
  obtain ⟨i, a⟩ := f
  simp only [keyed, SortedMap.SameKey, Option.bind_eq_bind, Option.bind_eq_some_iff,
    Option.pure_def, Option.some_inj, Prod.mk.injEq]
  constructor
  · intro h
    obtain ⟨b, read, rfl, rfl⟩ := h
    exact ⟨rfl, read⟩
  · intro h
    obtain ⟨rfl, read⟩ := h
    exact ⟨a, read, rfl, rfl⟩

theorem layer_object (fields : List (String × Json)) :
    layer (Json.object fields) = .object (fields.map fun (k, v) => (⟨k.toList, some k⟩, v)) := rfl

theorem mapM_keyed (fields : List (String × Json)) :
    ((fields.map fun (k, v) => ((⟨k.toList, some k⟩, v) : Key × Json)).mapM
      fun (k, v) => do pure (← Key.text? k, ← q v)) = fields.mapM (keyed q) := by
  rw [List.mapM_map]
  refine congrArg (fun f => List.mapM f _) (funext fun e => ?_)
  simp [keyed]

theorem get?_mapM_entries {fields : List (String × Json)} {m : SortedMap String α}
    (read : ((SortedMap.ofList fields).entries.mapM (keyed q)).map SortedMap.ofList = some m)
    (k : String) :
    m.get? k = (fields.reverse.lookup k).bind q ∧
      ∀ y, fields.reverse.lookup k = some y → (q y).isSome = true := by
  obtain ⟨es, reads, rfl⟩ := Option.map_eq_some_iff.1 read
  have pairs := mapM_eq_some_iff.1 reads
  simp only [keyed_eq_some] at pairs
  have once : (es.map (·.1)).count k ≤ 1 := by
    rw [← map_fst_eq pairs]
    exact List.nodup_iff_count_le_one.1 (SortedMap.nodup_keys _) k
  have value := SortedMap.rel_lookup pairs k
  rw [SortedMap.lookup_entries, SortedMap.get?_ofList_reverse] at value
  rw [SortedMap.get?_ofList once]
  generalize fields.reverse.lookup k = a at value ⊢
  generalize es.lookup k = b at value ⊢
  cases value with
  | none =>
    refine ⟨rfl, fun y same => ?_⟩
    cases same
  | some held =>
    refine ⟨held.symm, fun y same => ?_⟩
    obtain rfl := Option.some.inj same
    rw [held]
    rfl

theorem any_text?_eq {given : List (Key × Written)} {fields : List (String × Json)}
    (each : List.Forall₂ (Named Written.Gives) given fields) (name : String) :
    given.any (·.1.text? = some name) = (fields.reverse.lookup name).isSome := by
  induction each with
  | nil => rfl
  | @cons g f given fields first _ ih =>
    cases first with
    | @intro key other x y text _ =>
    rw [List.any_cons, ih, SortedMap.lookup_reverse_cons, text, Option.isSome_or, Bool.or_comm]
    by_cases here : name = other
    · simp [here]
    · simp [here, Ne.symm here]

theorem mapM_cons_given {key : Key} {name : String} (text : key.text? = some name) (x : Written)
    (given : List (Key × Written)) :
    (((key, x) :: given).mapM fun (k, v) => do pure (← Key.text? k, ← p v)) =
      (p x).bind fun a =>
        (given.mapM fun (k, v) => do pure (← Key.text? k, ← p v)).bind fun es =>
          some ((name, a) :: es) := by
  rw [List.mapM_cons]
  dsimp only
  rw [text]
  cases p x <;> rfl

theorem readsUnless_field (part : Agree p q clash) {x : Written} {y : Json} (gives : x.Gives y)
    {name : String} (later : String → Option Json)
    (readable : ∀ z, (later name).or (some y) = some z → (q z).isSome = true) :
    ReadsUnless (if (later name).isSome then (p x).isNone else clash x) (p x) fun a =>
      ∀ k, ((later k).bind q).or (if k = name then some a else none) =
        ((later k).or (if k = name then some y else none)).bind q := by
  cases last : later name with
  | some z =>
    cases p x with
    | none => exact .inl ⟨rfl, rfl⟩
    | some a =>
      refine .inr ⟨rfl, a, rfl, fun k => ?_⟩
      by_cases here : k = name
      · subst here
        have value := readable z (by rw [last]; rfl)
        rw [last, Option.bind_some, Option.some_or, Option.bind_some]
        exact Option.or_of_isSome value
      · simp [here]
  | none =>
    obtain ⟨b, value⟩ := Option.isSome_iff_exists.1 (readable y (by rw [last]; rfl))
    have own := part x y gives b value
    cases refused : clash x with
    | true =>
      rw [refused] at own
      exact .inl ⟨rfl, own⟩
    | false =>
      rw [refused] at own
      refine .inr ⟨rfl, b, own, fun k => ?_⟩
      by_cases here : k = name
      · subst here
        simp [last, value]
      · simp [here]

theorem readsUnless_fields (part : Agree p q clash) {given : List (Key × Written)}
    {fields : List (String × Json)} (each : List.Forall₂ (Named Written.Gives) given fields)
    (readable : ∀ k y, fields.reverse.lookup k = some y → (q y).isSome = true) :
    ReadsUnless (Clash.anyOfEntries p clash given)
      (given.mapM fun (k, v) => do pure (← Key.text? k, ← p v))
      fun es => ∀ k, es.reverse.lookup k = (fields.reverse.lookup k).bind q := by
  induction each with
  | nil => exact .inr ⟨rfl, [], rfl, fun _ => rfl⟩
  | @cons g f given fields first each ih =>
    cases first with
    | @intro key name x y text gives =>
    have own := readsUnless_field part gives (fun k => fields.reverse.lookup k)
      fun z last => readable name z (by rw [SortedMap.lookup_reverse_cons, if_pos rfl, last])
    rw [Clash.anyOfEntries, text, any_text?_eq each, mapM_cons_given text]
    rcases own with ⟨refused, missing⟩ | ⟨kept, a, here, lookups⟩
    · rw [refused, missing]
      exact .inl ⟨rfl, rfl⟩
    · rw [kept, here]
      rcases ih fun k z last => readable k z (by rw [SortedMap.lookup_reverse_cons, last]; rfl) with
        ⟨refused, missing⟩ | ⟨clear, es, reads, held⟩
      · rw [refused, missing]
        exact .inl ⟨rfl, rfl⟩
      · rw [clear, reads]
        refine .inr ⟨rfl, (name, a) :: es, rfl, fun k => ?_⟩
        rw [SortedMap.lookup_reverse_cons, SortedMap.lookup_reverse_cons, held, lookups]

theorem agree_asMap? (part : Agree p q clash) : Agree (asMap? p) (asMap? q) (.map p clash) := by
  intro w v gives m found
  have same := sameLayer_of_gives gives
  show _ = if Clash.anyEntry p clash w = true then none else some m
  unfold asMap? at found ⊢
  unfold Clash.anyEntry
  generalize layer w = l at same ⊢
  generalize layer v = n at same found
  cases same with
  | @object given fields each =>
    show _ = if Clash.anyOfEntries p clash given = true then none else some m
    dsimp only at found ⊢
    rw [mapM_keyed] at found
    rcases readsUnless_fields part each fun k => (get?_mapM_entries found k).2 with
      ⟨refused, missing⟩ | ⟨clear, es, reads, held⟩
    · rw [refused, missing]
      rfl
    · have same : SortedMap.ofList es = m := by
        refine SortedMap.ext_get? fun k => ?_
        rw [SortedMap.get?_ofList_reverse, held, (get?_mapM_entries found k).1]
      rw [clear, reads, Option.map_some, same]
      rfl
  | _ => cases found

end Parts

def SameFields (names : List String) (fs : Fields Written) (gs : Fields Json) : Prop :=
  ∀ name ∈ names, Option.Rel Written.Gives (fs.get? name) (gs.get? name)

section Records

variable {names : List String}

theorem mapM_given {given : List (Key × Written)} {fields : List (String × Json)}
    (each : List.Forall₂ (Named Written.Gives) given fields) :
    ∃ read : List (String × Written),
      given.mapM (fun (k, v) => do pure (← Key.text? k, v)) = some read ∧
        List.Forall₂ (SortedMap.SameKey Written.Gives) read fields := by
  induction each with
  | nil => exact ⟨[], rfl, .nil⟩
  | @cons g f given fields first _ ih =>
    obtain ⟨read, later, pairs⟩ := ih
    cases first with
    | @intro key name x y text gives =>
      refine ⟨(name, x) :: read, ?_, .cons ⟨rfl, gives⟩ pairs⟩
      rw [List.mapM_cons, later]
      simp [text]

theorem mapM_fields (fields : List (String × Json)) :
    ((fields.map fun (k, v) => ((⟨k.toList, some k⟩, v) : Key × Json)).mapM
      fun (k, v) => do pure (← Key.text? k, v)) = some fields := by
  rw [List.mapM_map, mapM_eq_some_iff]
  exact List.forall₂_same.2 fun e _ => rfl

theorem forall₂_zip_names {items : List Written} {xs : List Json}
    (each : List.Forall₂ Written.Gives items xs) :
    List.Forall₂ (SortedMap.SameKey Written.Gives) (names.zip items) (names.zip xs) := by
  induction each generalizing names with
  | nil => simp
  | cons first _ ih =>
    cases names with
    | nil => exact .nil
    | cons name names => exact .cons ⟨rfl, first⟩ ih

theorem decide_nodup_filter (xs : List String) :
    decide ((xs.map some).filter (names.map some).contains).Nodup =
      decide (xs.filter names.contains).Nodup := by
  have known : (names.map some).contains ∘ some = names.contains := by
    funext name
    simp
  rw [decide_eq_decide, List.filter_map, known]
  exact List.nodup_map_iff fun a b same => Option.some.inj same

/-- A text whose value is a record repeats a field of its own, or shows the same fields. -/
theorem asRecord?_of_gives {w : Written} {v : Json} (gives : w.Gives v) {gs : Fields Json}
    (value : asRecord? names v = some gs) :
    ReadsUnless (Clash.repeatsField names w) (asRecord? names w) (SameFields names · gs) := by
  have same := sameLayer_of_gives gives
  unfold asRecord? at value ⊢
  unfold Clash.repeatsField
  generalize layer w = l at same ⊢
  generalize layer v = m at same value
  cases same with
  | @object given fields each =>
    obtain ⟨read, reads, pairs⟩ := mapM_given each
    have known : (((SortedMap.ofList fields).entries.map (·.1)).filter names.contains).Nodup :=
      (SortedMap.nodup_keys _).filter _
    dsimp only at value ⊢
    rw [mapM_fields, Option.bind_eq_bind, Option.bind_some, eraseDups_of_nodup known, if_pos rfl]
      at value
    obtain rfl := Option.some.inj value
    rw [reads, map_text?_eq each, ← map_fst_eq pairs, decide_nodup_filter, Option.bind_eq_bind,
      Option.bind_some]
    by_cases distinct : ((read.map (·.1)).filter names.contains).Nodup
    · rw [decide_eq_true distinct]
      refine .inr ⟨rfl, _, if_pos (by rw [eraseDups_of_nodup distinct]), fun name member => ?_⟩
      have once : (fields.map (·.1)).count name ≤ 1 := by
        rw [← map_fst_eq pairs, ← List.count_filter (List.contains_iff_mem.2 member)]
        exact List.nodup_iff_count_le_one.1 distinct name
      dsimp only
      rw [SortedMap.lookup_entries, SortedMap.get?_ofList once]
      exact SortedMap.rel_lookup pairs name
    · rw [decide_eq_false distinct]
      exact .inl ⟨rfl, if_neg fun same => distinct (nodup_of_length_eraseDups same)⟩
  | @array items xs each =>
    dsimp only at value ⊢
    rw [← each.length_eq] at value
    obtain ⟨fits, shape⟩ := Option.ite_none_right_eq_some.1 value
    obtain rfl := Option.some.inj shape
    exact .inr ⟨rfl, _, if_pos fits, fun name _ =>
      SortedMap.rel_lookup (forall₂_zip_names each) name⟩
  | _ => cases value

theorem agree_record {parts : List (String × Clash)} (fields : parts.map (·.1) = names)
    {build : Fields Written → Option α} {build' : Fields Json → Option α}
    (same : ∀ fs gs, SameFields names fs gs →
      Follows (parts.any fun part => (fs.get? part.1).any part.2) (build fs) (build' gs)) :
    Agree (fun w => asRecord? names w >>= build) (fun v => asRecord? names v >>= build')
      (.record parts) := by
  intro w v gives x found
  obtain ⟨gs, value, there⟩ := Option.bind_eq_some_iff.1 found
  subst fields
  show asRecord? _ w >>= build =
    if (Clash.repeatsField (parts.map (·.1)) w || _) = true then none else some x
  rcases asRecord?_of_gives gives value with ⟨refused, missing⟩ | ⟨clear, fs, here, shown⟩
  · rw [refused, missing]
    rfl
  · rw [clear, here, Bool.false_or, Option.any_some]
    exact same fs gs shown x there

variable {fs : Fields Written} {gs : Fields Json} {p : Written → Option α} {q : Json → Option α}
  {clash : Clash}

theorem SameFields.required? (fields : SameFields names fs gs) {name : String}
    (known : name ∈ names) (part : Agree p q clash) :
    Follows ((fs.get? name).any clash) (fs.required? name p) (gs.required? name q) := by
  have field := fields name known
  unfold Fields.required?
  generalize fs.get? name = a at field ⊢
  generalize gs.get? name = b at field ⊢
  cases field with
  | none => exact .refl _
  | @some w v gives => exact part w v gives

theorem SameFields.withDefault? (fields : SameFields names fs gs) {name : String}
    (known : name ∈ names) (part : Agree p q clash) (default : α) :
    Follows ((fs.get? name).any clash) (fs.withDefault? name p default)
      (gs.withDefault? name q default) := by
  have field := fields name known
  unfold Fields.withDefault?
  generalize fs.get? name = a at field ⊢
  generalize gs.get? name = b at field ⊢
  cases field with
  | none => exact .refl _
  | @some w v gives => exact part w v gives

end Records

end ThreatModel.Json
