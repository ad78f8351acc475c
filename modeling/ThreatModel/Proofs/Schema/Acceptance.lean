import ThreatModel.Proofs.Schema.Regex

namespace ThreatModel

namespace Schema

variable {follow : String → Json → List Problem}

-- The equations of the keywords take long to derive; here they are derived once for all forms.
attribute [local simp] keywordProblems

def Accepts (follow : String → Json → List Problem) (s : Schema) (v : Json) : Prop :=
  problems follow s v = []

@[simp] theorem ensure_eq_nil {ok : Bool} {violation : Violation} :
    ensure ok violation = [] ↔ ok = true := by
  cases ok <;> simp [ensure]

theorem keywordsProblems_eq_nil {ks : List Keyword} {v : Json} :
    keywordsProblems follow ks v = [] ↔ ∀ k ∈ ks, keywordProblems follow k v = [] := by
  induction ks with
  | nil => simp [keywordsProblems]
  | cons k ks ih => simp only [keywordsProblems, List.append_eq_nil_iff, ih, List.forall_mem_cons]

theorem namedProblems_eq_nil {named : List (String × Schema)} {fields : List (String × Json)} :
    namedProblems follow named fields = [] ↔
      ∀ p ∈ named, ∀ v, fields.lookup p.1 = some v → Accepts follow p.2 v := by
  induction named with
  | nil => simp [namedProblems]
  | cons p named ih =>
    obtain ⟨name, s⟩ := p
    simp only [namedProblems, List.append_eq_nil_iff, ih, List.forall_mem_cons]
    refine and_congr_left fun _ => ?_
    cases fields.lookup name with
    | none => simp
    | some v => simp [Accepts]

theorem accepts_rules {ks : List Keyword} {v : Json} :
    Accepts follow (.rules ks) v ↔ ∀ k ∈ ks, keywordProblems follow k v = [] := by
  rw [Accepts, problems, keywordsProblems_eq_nil]

theorem accepts_text (s : String) : Accepts follow text (.string s) := by
  simp [text, ofKind, accepts_rules, Kind.admits]

theorem accepts_count {i : Int} : Accepts follow count (.int i) ↔ 0 ≤ i := by
  simp [count, accepts_rules, Json.int, Kind.admits, Json.Number.less, Json.Number.ratio]

theorem accepts_listOf {each : Schema} {vs : List Json} :
    Accepts follow (listOf each) (.array vs) ↔ ∀ v ∈ vs, Accepts follow each v := by
  simp only [listOf, accepts_rules, List.forall_mem_cons, keywordProblems, ensure_eq_nil,
    List.flatMap_eq_nil_iff, List.map_eq_nil_iff]
  constructor
  · intro h v member
    obtain ⟨i, here, rfl⟩ := List.getElem_of_mem member
    exact h.2.1 (vs[i], i) (List.mk_mem_zipIdx_iff_getElem?.2 (List.getElem?_eq_getElem here))
  · intro h
    refine ⟨rfl, fun p member => ?_, by simp⟩
    exact h p.1 (List.mem_of_getElem? (List.mk_mem_zipIdx_iff_getElem?.1 member))

theorem accepts_mapOf {each : Schema} {fields : List (String × Json)} :
    Accepts follow (mapOf each) (.object fields) ↔ ∀ f ∈ fields, Accepts follow each f.2 := by
  rw [mapOf, accepts_rules]
  simp [Kind.admits, otherFields, Accepts]

theorem accepts_mapOf_ofMap {α : Type} {each : Schema} {write : α → Json} {m : SortedMap String α} :
    Accepts follow (mapOf each) (.ofMap write m) ↔
      ∀ e ∈ m.entries, Accepts follow each (write e.2) := by
  rw [Json.ofMap, accepts_mapOf, List.forall_mem_map]

theorem accepts_closedRecord {required : List String} {properties : List (String × Schema)}
    {fields : List (String × Json)} :
    Accepts follow (closedRecord required properties) (.object fields) ↔
      (∀ name ∈ required, (fields.lookup name).isSome = true) ∧
      (∀ p ∈ properties, ∀ v, fields.lookup p.1 = some v → Accepts follow p.2 v) ∧
      ∀ f ∈ fields, f.1 ∈ properties.map (·.1) := by
  simp only [closedRecord, accepts_rules, List.forall_mem_cons, keywordProblems, ensure_eq_nil,
    namedProblems_eq_nil, List.flatMap_eq_nil_iff]
  simp [Kind.admits, otherFields]

theorem accepts_identifier {id : String} :
    Accepts follow Intermediate.identifier (.string id) ↔ Identifier.Proper id := by
  simp [Intermediate.identifier, accepts_rules, Kind.admits, Intermediate.accepts_identifierPattern]

theorem Violation.excusedAt_zero (violation : Violation) : violation.excusedAt 0 = false := by
  cases violation <;> rfl

end Schema

theorem Outcome.problems_ofProblems_eq_nil {level : Nat} {found : List Schema.Problem} :
    (Outcome.ofProblems level found).problems = [] ↔
      ∀ p ∈ found, p.violation.excusedAt level = true := by
  simp [ofProblems, List.partition_eq_filter_filter, List.filter_eq_nil_iff]

namespace Validator

theorem problems_outcome_zero_eq_nil {validator : Validator} {v : Json} :
    (validator.outcome 0 v).problems = [] ↔ validator.problems v = [] := by
  rw [outcome, Outcome.problems_ofProblems_eq_nil, List.eq_nil_iff_forall_not_mem]
  simp only [Schema.Violation.excusedAt_zero, Bool.false_eq_true]

theorem problems_intermediate_eq_nil {v : Json} :
    (intermediate.outcome 0 v).problems = [] ↔
      Schema.Accepts (follow [] (Json.depthLimit + 2)) Schema.Intermediate.document v := by
  rw [problems_outcome_zero_eq_nil]
  rfl

end Validator

end ThreatModel
