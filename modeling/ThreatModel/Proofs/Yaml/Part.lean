import ThreatModel.Proofs.Text.Decimal
import ThreatModel.Yaml

namespace ThreatModel.Yaml

open Text

theorem sizeOf_lt_of_item {items : List Yaml} {i : Nat} {v : Yaml} (here : items[i]? = some v) :
    sizeOf v < sizeOf (sequence items) := by
  have smaller := List.sizeOf_lt_of_mem (List.mem_of_getElem? here)
  rw [sequence.sizeOf_spec]
  omega

theorem sizeOf_lt_of_entry {entries : List (Yaml × Yaml)} {i : Nat} {e : Yaml × Yaml}
    (here : entries[i]? = some e) : sizeOf e.2 < sizeOf (mapping entries) := by
  have smaller := List.sizeOf_lt_of_mem (List.mem_of_getElem? here)
  obtain ⟨k, v⟩ := e
  rw [Prod.mk.sizeOf_spec] at smaller
  rw [mapping.sizeOf_spec]
  have value : sizeOf (k, v).2 = sizeOf v := rfl
  omega

def untagged : Yaml → Yaml
  | tagged _ v => untagged v
  | v => v

def value? (name : String) (entries : List (Yaml × Yaml)) : Option Yaml :=
  (entries.find? fun e => e.1.keyText? = some name).map (·.2)

/-- The item whose position is written so, in decimal and without leading zeros. -/
def item? (name : String) (items : List Yaml) : Option Yaml :=
  let i := decimalValue name.toList
  if name.toList = decimal i then items[i]? else none

def part? : List String → Yaml → Option Yaml
  | [], v => some v.untagged
  | name :: path, v =>
    match v.untagged with
    | mapping entries => (value? name entries).bind (part? path)
    | sequence items => (item? name items).bind (part? path)
    | _ => none

def keyTexts (entries : List (Yaml × Yaml)) : List String := entries.filterMap (·.1.keyText?)

mutual

def hasDistinctKeys : Yaml → Bool
  | mapping entries => decide (keyTexts entries).Nodup && entriesHaveDistinctKeys entries
  | sequence items => itemsHaveDistinctKeys items
  | tagged _ v => hasDistinctKeys v
  | _ => true

def itemsHaveDistinctKeys : List Yaml → Bool
  | [] => true
  | v :: vs => hasDistinctKeys v && itemsHaveDistinctKeys vs

def entriesHaveDistinctKeys : List (Yaml × Yaml) → Bool
  | [] => true
  | (_, v) :: es => hasDistinctKeys v && entriesHaveDistinctKeys es

end

theorem hasDistinctKeys_of_mem_items {items : List Yaml}
    (distinct : (sequence items).hasDistinctKeys = true) {v : Yaml} (member : v ∈ items) :
    v.hasDistinctKeys = true := by
  rw [hasDistinctKeys] at distinct
  induction items with
  | nil => cases member
  | cons w items ih =>
    rw [itemsHaveDistinctKeys, Bool.and_eq_true] at distinct
    rcases List.mem_cons.1 member with rfl | later
    · exact distinct.1
    · exact ih distinct.2 later

theorem hasDistinctKeys_of_mem_entries {entries : List (Yaml × Yaml)}
    (distinct : (mapping entries).hasDistinctKeys = true) {e : Yaml × Yaml} (member : e ∈ entries) :
    e.2.hasDistinctKeys = true := by
  rw [hasDistinctKeys, Bool.and_eq_true] at distinct
  have inner := distinct.2
  clear distinct
  induction entries with
  | nil => cases member
  | cons f entries ih =>
    rw [entriesHaveDistinctKeys, Bool.and_eq_true] at inner
    rcases List.mem_cons.1 member with rfl | later
    · exact inner.1
    · exact ih later inner.2

theorem value?_of_mem {entries : List (Yaml × Yaml)}
    (distinct : (mapping entries).hasDistinctKeys = true) {k v : Yaml} (member : (k, v) ∈ entries)
    {name : String} (named : k.keyText? = some name) : value? name entries = some v := by
  rw [hasDistinctKeys, Bool.and_eq_true, decide_eq_true_eq] at distinct
  have apart := distinct.1
  clear distinct
  induction entries with
  | nil => cases member
  | cons e entries ih =>
    rw [value?, List.find?_cons]
    rcases List.mem_cons.1 member with rfl | later
    · simp [named]
    · have listed : name ∈ keyTexts entries := List.mem_filterMap.2 ⟨_, later, named⟩
      cases first : e.1.keyText? with
      | none =>
        simp only [keyTexts, List.filterMap_cons, first] at apart
        simpa [value?] using ih later apart
      | some other =>
        simp only [keyTexts, List.filterMap_cons, first] at apart
        have differs : other ≠ name := fun same => (List.nodup_cons.1 apart).1 (same ▸ listed)
        simpa [value?, differs] using ih later (List.nodup_cons.1 apart).2

theorem item?_decimal (i : Nat) (items : List Yaml) :
    item? (.ofList (decimal i)) items = items[i]? := by
  simp [item?, decimalValue_decimal]

theorem part?_tagged (path : List String) (tag : String) (v : Yaml) :
    (tagged tag v).part? path = v.part? path := by
  cases path <;> rfl

theorem part?_mapping (name : String) (path : List String) (entries : List (Yaml × Yaml)) :
    (mapping entries).part? (name :: path) = (value? name entries).bind (part? path) := rfl

theorem part?_sequence (name : String) (path : List String) (items : List Yaml) :
    (sequence items).part? (name :: path) = (item? name items).bind (part? path) := rfl

end ThreatModel.Yaml
