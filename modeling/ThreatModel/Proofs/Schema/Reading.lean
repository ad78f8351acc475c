import ThreatModel.Proofs.Json.WellFormed
import ThreatModel.Proofs.Schema.Acceptance

namespace ThreatModel.Schema

open Json

variable {α β : Type} {follow : String → Json → List Problem}

def Covers (follow : String → Json → List Problem) (s : Schema) (item : Json → Option α) : Prop :=
  ∀ v : Json, v.WellFormed → Accepts follow s v → (item v).isSome = true

theorem admits_of_accepts {kind : Kind} {ks : List Keyword} {v : Json}
    (accepted : Accepts follow (.rules (.kind [kind] :: ks)) v) : kind.admits v = true := by
  have first := accepts_rules.1 accepted _ List.mem_cons_self
  simpa [keywordProblems] using first

theorem covers_string (ks : List Keyword) :
    Covers follow (.rules (.kind [.string] :: ks)) asString? := by
  intro v _ accepted
  have kind := admits_of_accepts accepted
  cases v with
  | string s => rfl
  | null | bool | number | array | object => cases kind

theorem covers_text : Covers follow text asString? := covers_string []

theorem exists_int {v : Json} (accepted : Accepts follow count v) : ∃ i, v = .int i ∧ 0 ≤ i := by
  have kind := admits_of_accepts accepted
  cases v with
  | number n =>
    cases n with
    | int i => exact ⟨i, rfl, accepts_count.1 accepted⟩
    | float x => cases kind
  | null | bool | string | array | object => cases kind

theorem covers_count : Covers follow count asIndex? := by
  intro v kept accepted
  obtain ⟨i, rfl, positive⟩ := exists_int accepted
  have fits := wellFormed_int.1 kept
  have half : bitValues 63 < bitValues 64 := by decide
  have small : isUnsigned64 i = true := by
    simp only [Fits64, isSigned64, isUnsigned64, Bool.and_eq_true, decide_eq_true_eq] at fits ⊢
    omega
  have shown : layer (Json.int i) = .integer i := rfl
  simp [asIndex?, shown, small]

theorem exists_array {each : Schema} {v : Json} (accepted : Accepts follow (listOf each) v) :
    ∃ vs, v = .array vs := by
  have kind := admits_of_accepts accepted
  cases v with
  | array vs => exact ⟨vs, rfl⟩
  | null | bool | number | string | object => cases kind

theorem exists_object {ks : List Keyword} {v : Json}
    (accepted : Accepts follow (.rules (.kind [.object] :: ks)) v) : ∃ fields, v = .object fields := by
  have kind := admits_of_accepts accepted
  cases v with
  | object fields => exact ⟨fields, rfl⟩
  | null | bool | number | string | array => cases kind

section Parts

variable {s : Schema} {item : Json → Option α}

theorem covers_listOf (part : Covers follow s item) : Covers follow (listOf s) (asList? item) := by
  intro v kept accepted
  obtain ⟨vs, rfl⟩ := exists_array accepted
  have each := wellFormed_array.1 kept
  have shown : layer (Json.array vs) = .array vs := rfl
  simp only [asList?, shown, mapM_isSome]
  intro x member
  exact part x (each x member) (accepts_listOf.1 accepted x member)

theorem covers_mapOf (part : Covers follow s item) : Covers follow (mapOf s) (asMap? item) := by
  intro v kept accepted
  obtain ⟨fields, rfl⟩ := exists_object accepted
  have each := (wellFormed_object.1 kept).2
  simp only [asMap?, layer_object, mapM_keyed, Option.isSome_map, mapM_isSome]
  intro f member
  have read := part f.2 (each f member) (accepts_mapOf.1 accepted f member)
  obtain ⟨a, given⟩ := Option.isSome_iff_exists.1 read
  simp [keyed, given]

theorem covers_option (part : Covers follow s item) : Covers follow s (asOption? item) := by
  intro v kept accepted
  have read := part v kept accepted
  unfold asOption?
  split
  · rfl
  · rwa [Option.isSome_map]

end Parts

theorem asRecord?_object (names : List String) {fields : List (String × Json)}
    (distinct : (fields.map (·.1)).Nodup) :
    asRecord? names (Json.object fields) = some ⟨fun name => fields.lookup name⟩ := by
  have known : ((fields.map (·.1)).filter names.contains).Nodup := distinct.filter _
  unfold asRecord?
  rw [layer_object]
  dsimp only
  rw [mapM_fields]
  simp only [Option.bind_eq_bind, Option.bind_some, eraseDups_of_nodup known, if_true]

structure Supplies (follow : String → Json → List Problem) (required : List String)
    (properties : List (String × Schema)) (fs : Fields Json) : Prop where
  given : ∀ name ∈ required, (fs.get? name).isSome = true
  accepted : ∀ p ∈ properties, ∀ v, fs.get? p.1 = some v → v.WellFormed ∧ Accepts follow p.2 v

theorem exists_supplies {required : List String} {properties : List (String × Schema)} {v : Json}
    (kept : v.WellFormed) (accepted : Accepts follow (closedRecord required properties) v)
    (names : List String) :
    ∃ fs, asRecord? names v = some fs ∧ (∀ name, fs.get? name = v.field? name) ∧
      Supplies follow required properties fs := by
  obtain ⟨fields, rfl⟩ := exists_object accepted
  obtain ⟨given, each, _⟩ := accepts_closedRecord.1 accepted
  obtain ⟨distinct, inside⟩ := wellFormed_object.1 kept
  refine ⟨_, asRecord?_object names distinct, fun _ => rfl, given, fun p member v held => ?_⟩
  have here := (SortedMap.lookup_eq_some_of_nodup distinct).1 held
  exact ⟨inside _ here, each p member v held⟩

theorem isSome_bind {a : Option α} {f : α → Option β} (first : a.isSome = true)
    (later : ∀ x, (f x).isSome = true) : (a >>= f).isSome = true := by
  obtain ⟨x, rfl⟩ := Option.isSome_iff_exists.1 first
  exact later x

section Records

variable {required : List String} {properties : List (String × Schema)} {fs : Fields Json}
  {name : String} {s : Schema} {item : Json → Option α}

theorem Supplies.withDefault? (supplies : Supplies follow required properties fs)
    (property : (name, s) ∈ properties) (part : Covers follow s item) (default : α) :
    (fs.withDefault? name item default).isSome = true := by
  unfold Fields.withDefault?
  cases held : fs.get? name with
  | none => rfl
  | some v =>
    obtain ⟨kept, accepted⟩ := supplies.accepted _ property v held
    exact part v kept accepted

theorem Supplies.required? (supplies : Supplies follow required properties fs)
    (asked : name ∈ required) (property : (name, s) ∈ properties) (part : Covers follow s item) :
    (fs.required? name item).isSome = true := by
  obtain ⟨v, held⟩ := Option.isSome_iff_exists.1 (supplies.given name asked)
  obtain ⟨kept, accepted⟩ := supplies.accepted _ property v held
  rw [Fields.required?, held]
  exact part v kept accepted

theorem covers_record {names : List String} {build : Fields Json → Option α}
    (built : ∀ fs, Supplies follow required properties fs → (build fs).isSome = true) :
    Covers follow (closedRecord required properties) fun v => asRecord? names v >>= build := by
  intro v kept accepted
  obtain ⟨fs, read, _, supplies⟩ := exists_supplies kept accepted names
  dsimp only
  rw [read]
  exact built fs supplies

end Records

end ThreatModel.Schema
