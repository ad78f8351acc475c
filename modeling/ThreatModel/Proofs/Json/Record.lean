import Mathlib.Data.List.Forall2
import ThreatModel.Json.Record
import ThreatModel.Proofs.SortedMap
import ThreatModel.Proofs.Text.Decimal

namespace ThreatModel.Json

section Lists

variable {α β γ : Type}

theorem mapM_eq_some {related : γ → β → Prop} {read : γ → Option α} {write : α → β} {xs : List α}
    {cs : List γ} (pairs : List.Forall₂ related cs (xs.map write))
    (each : ∀ x ∈ xs, ∀ c, related c (write x) → read c = some x) : cs.mapM read = some xs := by
  induction xs generalizing cs with
  | nil =>
    rw [List.map_nil, List.forall₂_nil_right_iff] at pairs
    rw [pairs, List.mapM_nil]
    rfl
  | cons x xs ih =>
    rw [List.map_cons] at pairs
    cases pairs with
    | cons first later =>
      have head := each x List.mem_cons_self _ first
      have tail := ih later fun y member => each y (List.mem_cons_of_mem _ member)
      rw [List.mapM_cons, head, tail]
      rfl

theorem eraseDups_of_nodup [DecidableEq α] {xs : List α} (distinct : xs.Nodup) :
    xs.eraseDups = xs := by
  induction xs with
  | nil => rfl
  | cons x xs ih =>
    have ⟨fresh, later⟩ := List.nodup_cons.1 distinct
    have kept : xs.filter (fun y => !y == x) = xs := by
      refine List.filter_eq_self.2 fun y member => ?_
      have apart : y ≠ x := fun same => fresh (same ▸ member)
      simpa using apart
    rw [List.eraseDups_cons, kept, ih later]

theorem length_eraseDups_le [DecidableEq α] (xs : List α) : xs.eraseDups.length ≤ xs.length := by
  induction n : xs.length using Nat.strongRecOn generalizing xs with
  | ind n ih =>
    cases xs with
    | nil => simp
    | cons x xs =>
      subst n
      rw [List.eraseDups_cons, List.length_cons, List.length_cons]
      have shorter := List.length_filter_le (fun y => !y == x) xs
      have inner := ih _ (by simp only [List.length_cons]; omega) (xs.filter fun y => !y == x) rfl
      omega

theorem nodup_of_length_eraseDups [DecidableEq α] {xs : List α}
    (same : xs.eraseDups.length = xs.length) : xs.Nodup := by
  induction xs with
  | nil => exact List.nodup_nil
  | cons x xs ih =>
    rw [List.eraseDups_cons, List.length_cons, List.length_cons, Nat.succ.injEq] at same
    have shorter := List.length_filter_le (fun y => !y == x) xs
    have inner := length_eraseDups_le (xs.filter fun y => !y == x)
    have whole : xs.filter (fun y => !y == x) = xs :=
      List.filter_eq_self.2 (List.length_filter_eq_length_iff.1 (by omega))
    have fresh : x ∉ xs := by
      intro member
      have apart := List.filter_eq_self.1 whole x member
      simp at apart
    rw [whole] at same
    exact List.nodup_cons.2 ⟨fresh, ih same⟩

end Lists

def Key.SpellsDigits (k : Key) : Prop :=
  ∀ name, k.text? = some name → (∀ c ∈ name.toList, Text.isDigit c = true) → k.spelling = name.toList

theorem Key.index?_of_spellsDigits {k : Key} {i : Nat} (spelled : k.SpellsDigits)
    (text : k.text? = some (.ofList (Text.decimal i))) (fits : i < bitValues 64) :
    k.index? = some i := by
  have digits : k.spelling = Text.decimal i := by
    simpa using spelled _ text (by simpa using Text.isDigit_of_mem_decimal i)
  simp [Key.index?, digits, Text.decimalValue_decimal, fits]

variable {σ α : Type}

inductive Named (shows' : σ → Json → Prop) : Key × σ → String × Json → Prop where
  | intro {key : Key} {name : String} {v : σ} {value : Json} (text : key.text? = some name)
      (shown : shows' v value) : Named shows' (key, v) (name, value)

variable [Layered σ]

/-- What a document stands for, however its strings and keys are spelled. Only keys that are numerals
have to be spelled out. -/
inductive Shows : σ → Json → Prop where
  | null {v : σ} (here : layer v = .null) : Shows v .null
  | bool {v : σ} {b : Bool} (here : layer v = .bool b) : Shows v (.bool b)
  | int {v : σ} {i : Int} (here : layer v = .integer i) : Shows v (.int i)
  | string {v : σ} {s : String} (here : layer v = .string s) : Shows v (.string s)
  | array {v : σ} {items : List σ} {values : List Json} (here : layer v = .array items)
      (each : List.Forall₂ Shows items values) : Shows v (.array values)
  | object {v : σ} {given : List (Key × σ)} {fields : List (String × Json)}
      (here : layer v = .object given) (spelled : ∀ f ∈ given, f.1.SpellsDigits)
      (each : List.Forall₂ (Named Shows) given fields) : Shows v (.object fields)

/-- Whether `item` reads `x` from every document that shows what `write` makes of it. -/
def ReadsBack (item : σ → Option α) (write : α → Json) (x : α) : Prop :=
  ∀ v, Shows v (write x) → item v = some x

theorem readsBack_string (s : String) : ReadsBack (σ := σ) asString? .string s := by
  intro v shown
  cases shown with
  | string here => rw [asString?, here]

theorem readsBack_int64 {i : Int} (fits : isSigned64 i = true) :
    ReadsBack (σ := σ) asInt64? .int i := by
  intro v shown
  cases shown with
  | int here => simp only [asInt64?, here, fits, if_true]

theorem readsBack_index {n : Nat} (fits : n < bitValues 64) :
    ReadsBack (σ := σ) asIndex? .nat n := by
  intro v shown
  have inRange : isUnsigned64 n = true := by
    simp only [isUnsigned64, Bool.and_eq_true, decide_eq_true_eq]
    omega
  cases shown with
  | int here => simp only [asIndex?, here, inRange, if_true, Int.toNat_natCast]

theorem readsBack_list {item : σ → Option α} {write : α → Json} {xs : List α}
    (each : ∀ x ∈ xs, ReadsBack item write x) :
    ReadsBack (asList? item) (fun xs => .array (xs.map write)) xs := by
  intro v shown
  cases shown with
  | array here items =>
    simp only [asList?, here]
    exact mapM_eq_some items each

theorem readsBack_map {item : σ → Option α} {write : α → Json} {m : SortedMap String α}
    (each : ∀ e ∈ m.entries, ReadsBack item write e.2) :
    ReadsBack (asMap? item) (.ofMap write) m := by
  intro v shown
  cases shown with
  | object here _ fields =>
    have entry : ∀ e ∈ m.entries, ∀ c, Named Shows c (e.1, write e.2) →
        (do pure (← Key.text? c.1, ← item c.2)) = some e := by
      rintro ⟨k, x⟩ member ⟨key, w⟩ related
      cases related with
      | intro text shown => simp [text, each _ member w shown]
    have entries := mapM_eq_some fields entry
    simp only [asMap?, here]
    rw [entries, Option.map_some, SortedMap.ofList_entries]

theorem readsBack_indexMap {item : σ → Option α} {write : α → Json} {m : SortedMap Nat α}
    (fits : ∀ e ∈ m.entries, e.1 < bitValues 64) (each : ∀ e ∈ m.entries, ReadsBack item write e.2) :
    ReadsBack (asIndexMap? item) (.ofIndexMap write) m := by
  intro v shown
  cases shown with
  | object here spelled fields =>
    have entry : ∀ e ∈ m.entries, ∀ c,
        c.1.SpellsDigits ∧ Named Shows c (.ofList (Text.decimal e.1), write e.2) →
        (do pure (← Key.index? c.1, ← item c.2)) = some e := by
      rintro ⟨i, x⟩ member ⟨key, w⟩ ⟨digits, related⟩
      cases related with
      | intro text shown =>
        have index := Key.index?_of_spellsDigits digits text (fits _ member)
        simp [index, each _ member w shown]
    have entries := mapM_eq_some ((List.forall₂_and_left _ _).2 ⟨spelled, fields⟩) entry
    simp only [asIndexMap?, here]
    rw [entries, Option.map_some, SortedMap.ofList_entries]

theorem readsBack_option (o : Option String) :
    ReadsBack (σ := σ) (asOption? asString?) (fun o => o.elim .null .string) o := by
  intro v shown
  cases o with
  | none =>
    cases shown with
    | null here => simp only [asOption?, here]
  | some s =>
    cases shown with
    | string here => simp only [asOption?, asString?, here, Option.map_some]

structure Fields.Show (fs : Fields σ) (fields : List (String × Json)) : Prop where
  present : ∀ name value, (name, value) ∈ fields → ∃ v, fs.get? name = some v ∧ Shows v value
  missing : ∀ name, name ∉ fields.map (·.1) → fs.get? name = none

theorem lookup_named {given : List (Key × σ)} {fields : List (String × Json)}
    (each : List.Forall₂ (Named Shows) given fields) (distinct : (fields.map (·.1)).Nodup) :
    ∃ read : List (String × σ), given.mapM (fun (k, v) => do pure (← Key.text? k, v)) = some read ∧
      read.map (·.1) = fields.map (·.1) ∧ Fields.Show ⟨fun name => read.lookup name⟩ fields := by
  induction each with
  | nil => exact ⟨[], rfl, rfl, ⟨by simp, by simp⟩⟩
  | @cons g f given fields first _ ih =>
    have ⟨fresh, later⟩ := List.nodup_cons.1 distinct
    obtain ⟨read, rest, names, shown⟩ := ih later
    cases first with
    | @intro key name v value text here =>
      refine ⟨(name, v) :: read, ?_, ?_, fun other otherValue member => ?_, fun other absent => ?_⟩
      · rw [List.mapM_cons, rest]
        simp [text]
      · simp [names]
      · rcases List.mem_cons.1 member with same | behind
        · cases same
          exact ⟨v, List.lookup_cons_self, here⟩
        · have apart : (other == name) = false := by
            rw [beq_eq_false_iff_ne]
            rintro rfl
            exact fresh (List.mem_map.2 ⟨(other, otherValue), behind, rfl⟩)
          simp only [List.lookup_cons, apart]
          exact shown.present other otherValue behind
      · rw [List.map_cons, List.mem_cons, not_or] at absent
        have apart : (other == name) = false := beq_eq_false_iff_ne.2 absent.1
        simp only [List.lookup_cons, apart]
        exact shown.missing other absent.2

theorem asRecord?_of_shows {v : σ} {fields : List (String × Json)} (shown : Shows v (.object fields))
    (distinct : (fields.map (·.1)).Nodup) (names : List String) :
    ∃ fs, asRecord? names v = some fs ∧ fs.Show fields := by
  cases shown with
  | object here _ each =>
    obtain ⟨read, keys, same, shown⟩ := lookup_named each distinct
    have known : ((read.map (·.1)).filter names.contains).Nodup := by
      rw [same]
      exact distinct.filter _
    refine ⟨⟨fun name => read.lookup name⟩, ?_, shown⟩
    simp only [asRecord?, here, keys]
    simp [eraseDups_of_nodup known]

namespace Fields

variable {fs : Fields σ} {fields : List (String × Json)} {item : σ → Option α} {write : α → Json}
  {x : α}

theorem Show.required? (shown : fs.Show fields) (name : String) (given : (name, write x) ∈ fields)
    (back : ReadsBack item write x) : fs.required? name item = some x := by
  obtain ⟨v, found, here⟩ := shown.present name _ given
  rw [Fields.required?, found]
  exact back v here

theorem Show.withDefault? (shown : fs.Show fields) (name : String) (default : α)
    (given : (name, write x) ∈ fields) (back : ReadsBack item write x) :
    fs.withDefault? name item default = some x := by
  obtain ⟨v, found, here⟩ := shown.present name _ given
  rw [Fields.withDefault?, found]
  exact back v here

theorem Show.absent (shown : fs.Show fields) {name : String} (missing : name ∉ fields.map (·.1))
    (default : α) : fs.withDefault? name item default = some default := by
  rw [Fields.withDefault?, shown.missing name missing]

end Fields

end ThreatModel.Json
