import Mathlib.Data.List.Basic
import ThreatModel.Document.Validation
import ThreatModel.Proofs.Schema.Acceptance
import ThreatModel.Schema.Intermediate

namespace ThreatModel

namespace Schema.Violation

theorem excusedAt_iff {violation : Violation} {level : Nat} :
    violation.excusedAt level = true ↔
      (∃ names, violation = .unexpected names ∧ 1 ≤ level) ∨
        ∃ name, violation = .missing name ∧ 2 ≤ level := by
  cases violation <;> simp [excusedAt]

theorem excusedAt_mono {violation : Violation} {r s : Nat} (le : r ≤ s)
    (excused : violation.excusedAt r = true) : violation.excusedAt s = true := by
  rw [excusedAt_iff] at excused ⊢
  rcases excused with ⟨names, here, least⟩ | ⟨name, here, least⟩
  · exact .inl ⟨names, here, Nat.le_trans least le⟩
  · exact .inr ⟨name, here, Nat.le_trans least le⟩

end Schema.Violation

namespace Outcome

theorem problems_ofProblems (level : Nat) (found : List Schema.Problem) :
    (ofProblems level found).problems =
      (found.filter fun p => !p.violation.excusedAt level).map (·.message) := by
  simp only [ofProblems, List.partition_eq_filter_filter]
  rfl

theorem ignored_ofProblems (level : Nat) (found : List Schema.Problem) :
    (ofProblems level found).ignored =
      (found.filter fun p => p.violation.excusedAt level).map (·.message) := by
  simp only [ofProblems, List.partition_eq_filter_filter]

theorem perm_ofProblems (level : Nat) (found : List Schema.Problem) :
    ((ofProblems level found).problems ++ (ofProblems level found).ignored).Perm
      (found.map (·.message)) := by
  rw [problems_ofProblems, ignored_ofProblems, ← List.map_append]
  exact (List.perm_append_comm.trans (List.filter_append_perm _ _)).map _

theorem problems_ofProblems_sublist {r s : Nat} (le : r ≤ s) (found : List Schema.Problem) :
    (ofProblems s found).problems.Sublist (ofProblems r found).problems := by
  rw [problems_ofProblems, problems_ofProblems]
  refine (List.monotone_filter_right _ fun p kept => ?_).map _
  rw [Bool.not_eq_true'] at kept ⊢
  rw [← Bool.not_eq_true] at kept ⊢
  exact fun excused => kept (Schema.Violation.excusedAt_mono le excused)

end Outcome

namespace Document

theorem furtherProblems_mono (v : Json) {m n : Nat} (le : m ≤ n) :
    m + furtherProblems m v ≤ n + furtherProblems n v := by
  unfold furtherProblems
  cases fromJson? v with
  | some d => exact Nat.add_le_add_right le _
  | none =>
    -- The failed reading adds one problem only where the other level has none left to lose.
    dsimp only
    split <;> split <;> omega

theorem add_furtherProblems_eq_zero {v : Json} {n : Nat} :
    n + furtherProblems n v = 0 ↔ n = 0 ∧ ∃ d, fromJson? v = some d ∧ d.referenceIssues = [] := by
  unfold furtherProblems
  cases fromJson? v with
  | some d => simp
  | none => by_cases zero : n = 0 <;> simp [zero]

theorem problemCount?_eq {against : Json → List Schema.Problem} {level : Nat} {text : String}
    {v : Json} (json : Json.ofText? text = some v) :
    problemCount? against level text =
      some ((Outcome.ofProblems level (against v)).problems.length +
        furtherProblems (Outcome.ofProblems level (against v)).problems.length v) := by
  rw [problemCount?, json]
  rfl

/-- A higher level never counts more problems. No problems are counted exactly if the schema has
nothing against the text besides what the level excuses, and it is a document that declares all it
refers to. At every level the messages are the same, either as problems or ignored. All this holds
whatever the schema has against values. -/
theorem problemCount?_relaxed (against : Json → List Schema.Problem) {text : String} {v : Json}
    (json : Json.ofText? text = some v) :
    (∃ count : Nat → Nat, (∀ level, problemCount? against level text = some (count level)) ∧
      ∀ r s, r ≤ s → count s ≤ count r) ∧
    (∀ level, problemCount? against level text = some 0 ↔
      (∀ p ∈ against v,
        (∃ names, p.violation = .unexpected names ∧ 1 ≤ level) ∨
          ∃ name, p.violation = .missing name ∧ 2 ≤ level) ∧
      ∃ d, fromJson? v = some d ∧ d.referenceIssues = []) ∧
    ∀ level, ((Outcome.ofProblems level (against v)).problems ++
      (Outcome.ofProblems level (against v)).ignored).Perm ((against v).map (·.message)) := by
  refine ⟨⟨_, fun _ => problemCount?_eq json, fun r s le => ?_⟩, fun level => ?_, fun level => ?_⟩
  · exact furtherProblems_mono v (Outcome.problems_ofProblems_sublist le _).length_le
  · rw [problemCount?_eq json, Option.some.injEq, add_furtherProblems_eq_zero,
      List.length_eq_zero_iff, Outcome.problems_ofProblems_eq_nil]
    simp only [Schema.Violation.excusedAt_iff]
  · exact Outcome.perm_ofProblems level _

def looseText : String :=
  (Json.object [("specification", Specification.toJson {}), ("document", Timestamps.toJson {}),
    ("boundaries", .object [("@web", Entry.toJson { name := "Web" })]), ("components", .object []),
    ("threats", .object []), ("owner", .string "shop"),
    ("projects", .object [("shop", .object [("exposures", .object [("@forms", .array [
      .object [("boundary", .string "@web"), ("exposure", .string "forms"),
        ("source", Source.toJson {})]])])])])]).compact

/-- At the last level nothing is left but that the text is no document. -/
theorem problemCount?_looseText :
    (problemCount? Validator.intermediate.problems 0 looseText = some 3 ∧
      problemCount? Validator.intermediate.problems 1 looseText = some 2 ∧
      problemCount? Validator.intermediate.problems 2 looseText = some 1) ∧
    ∃ v, Json.ofText? looseText = some v ∧
      (∃ count : Nat → Nat,
        (∀ level, problemCount? Validator.intermediate.problems level looseText =
          some (count level)) ∧
        ∀ r s, r ≤ s → count s ≤ count r) ∧
      ∀ level, ((Validator.intermediate.outcome level v).problems ++
        (Validator.intermediate.outcome level v).ignored).Perm
          ((Validator.intermediate.problems v).map (·.message)) := by
  have counts : problemCount? Validator.intermediate.problems 0 looseText = some 3 ∧
      problemCount? Validator.intermediate.problems 1 looseText = some 2 ∧
      problemCount? Validator.intermediate.problems 2 looseText = some 1 := by
    simp only [problemCount?, Json.ofText?, looseText, Json.compact, String.toList_ofList]
    decide +kernel
  refine ⟨counts, ?_⟩
  cases json : Json.ofText? looseText with
  | none =>
    rw [problemCount?, json] at counts
    cases counts.1
  | some v =>
    obtain ⟨falling, _, kept⟩ := problemCount?_relaxed Validator.intermediate.problems json
    exact ⟨v, rfl, falling, kept⟩

end Document

end ThreatModel
