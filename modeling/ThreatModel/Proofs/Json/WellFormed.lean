import ThreatModel.Proofs.Json.Agreement
import ThreatModel.Proofs.Json.Printer

namespace ThreatModel.Json

inductive WellFormed : Json → Prop where
  | null : WellFormed .null
  | bool (b : Bool) : WellFormed (.bool b)
  | int {i : Int} (fits : Fits64 i) : WellFormed (.int i)
  | float (x : Binary64) : WellFormed (.number (.float x))
  | string (s : String) : WellFormed (.string s)
  | array {values : List Json} (each : ∀ v ∈ values, WellFormed v) : WellFormed (.array values)
  | object {fields : List (String × Json)} (distinct : (fields.map (·.1)).Nodup)
      (each : ∀ f ∈ fields, WellFormed f.2) : WellFormed (.object fields)

theorem wellFormed_int {i : Int} : (Json.int i).WellFormed ↔ Fits64 i := by
  constructor
  · intro kept
    cases kept with
    | int fits => exact fits
  · exact .int

theorem wellFormed_array {values : List Json} :
    (Json.array values).WellFormed ↔ ∀ v ∈ values, v.WellFormed := by
  constructor
  · intro kept
    cases kept with
    | array each => exact each
  · exact .array

theorem wellFormed_object {fields : List (String × Json)} :
    (Json.object fields).WellFormed ↔
      (fields.map (·.1)).Nodup ∧ ∀ f ∈ fields, f.2.WellFormed := by
  constructor
  · intro kept
    cases kept with
    | object distinct each => exact ⟨distinct, each⟩
  · intro h
    exact .object h.1 h.2

theorem fits64_of_integer? {n : Numeral} {i : Int} (read : n.integer? = some i) : Fits64 i := by
  have half : bitValues 63 < bitValues 64 := by decide
  simp only [Fits64, isSigned64, isUnsigned64, Bool.and_eq_true, decide_eq_true_eq]
  unfold Numeral.integer? at read
  split at read
  · cases read
  · dsimp only at read
    split at read
    · split at read
      · cases read
      · rename_i large
        have small : Text.decimalValue n.whole ≤ bitValues 63 := by
          simp only [Bool.or_eq_true, decide_eq_true_eq] at large
          omega
        obtain rfl := Option.some.inj read
        omega
    · split at read
      · obtain rfl := Option.some.inj read
        omega
      · cases read

theorem exists_related_of_mem {σ τ : Type} {related : σ → τ → Prop} {xs : List σ} {ys : List τ}
    (pairs : List.Forall₂ related xs ys) {y : τ} (member : y ∈ ys) : ∃ x ∈ xs, related x y := by
  induction pairs with
  | nil => cases member
  | @cons x z xs ys first _ ih =>
    rcases List.mem_cons.1 member with rfl | member
    · exact ⟨x, List.mem_cons_self, first⟩
    · obtain ⟨other, inside, related⟩ := ih member
      exact ⟨other, List.mem_cons_of_mem _ inside, related⟩

theorem wellFormed_entries {fields : List (String × Json)} (each : ∀ f ∈ fields, WellFormed f.2) :
    WellFormed (.object (SortedMap.ofList fields).entries) := by
  have pairs : List.Forall₂ (SortedMap.SameKey fun _ v => WellFormed v) fields fields :=
    List.forall₂_same.2 fun f member => ⟨rfl, each f member⟩
  have kept := List.forall₂_same.1 (SortedMap.forall₂_ofList pairs)
  exact .object (SortedMap.nodup_keys _) fun f member => (kept f member).2

theorem wellFormed_of_gives (w : Written) (v : Json) (gives : w.Gives v) : WellFormed v := by
  obtain ⟨depth, read⟩ := gives
  cases w with
  | null =>
    obtain rfl := Option.some.inj (ofWritten?.eq_1 depth ▸ read)
    exact .null
  | bool b =>
    obtain rfl := Option.some.inj (ofWritten?.eq_2 depth b ▸ read)
    exact .bool b
  | number n =>
    rw [ofWritten?, Numeral.number?] at read
    cases whole : n.integer? with
    | some i =>
      rw [whole] at read
      obtain rfl := Option.some.inj read
      exact .int (fits64_of_integer? whole)
    | none =>
      simp only [whole, Option.map_map, Option.map_eq_some_iff] at read
      obtain ⟨x, _, rfl⟩ := read
      exact .float x
  | string s =>
    rw [ofWritten?, Option.map_eq_some_iff] at read
    obtain ⟨t, _, rfl⟩ := read
    exact .string t
  | array items =>
    cases depth with
    | zero => simp [ofWritten?] at read
    | succ depth =>
      rw [ofWritten?, Option.map_eq_some_iff] at read
      obtain ⟨xs, inner, rfl⟩ := read
      refine .array fun x member => ?_
      obtain ⟨item, inside, gives⟩ := exists_related_of_mem (forall₂_itemsOfWritten? inner) member
      exact wellFormed_of_gives item x gives
  | object fields =>
    cases depth with
    | zero => simp [ofWritten?] at read
    | succ depth =>
      rw [ofWritten?, Option.map_eq_some_iff] at read
      obtain ⟨fs, inner, rfl⟩ := read
      refine wellFormed_entries fun f member => ?_
      obtain ⟨g, inside, named⟩ := exists_related_of_mem (forall₂_fieldsOfWritten? inner) member
      obtain ⟨field, place, rfl⟩ := List.mem_map.1 inside
      cases named with
      | intro text gives => exact wellFormed_of_gives field.2 _ gives
termination_by w
decreasing_by
  · subst_vars
    have smaller := List.sizeOf_lt_of_mem inside
    simp only [Written.array.sizeOf_spec]
    omega
  · subst_vars
    have smaller := List.sizeOf_lt_of_mem place
    have part : sizeOf field.2 < sizeOf field := by
      obtain ⟨k, v⟩ := field
      simp only [Prod.mk.sizeOf_spec]
      omega
    simp only [Written.object.sizeOf_spec]
    omega

theorem wellFormed_ofText? {text : String} {v : Json} (read : Json.ofText? text = some v) :
    WellFormed v := by
  obtain ⟨w, _, given⟩ := Option.bind_eq_some_iff.1 read
  exact wellFormed_of_gives w v ⟨_, given⟩

end ThreatModel.Json
