import Mathlib.Algebra.Order.Ring.Nat
import Mathlib.Data.List.Induction
import ThreatModel.Document.Coverage
import ThreatModel.Proofs.Document.References
import ThreatModel.Proofs.SortedMap.Lists

namespace ThreatModel
open SortedMap

def Element.concerns (kind : StanceKind) (id : String) : Element → Bool
  | .stance k s => k = kind && s.threat = id
  | .review _ => false

theorem Element.concerns_eq_false {kind : StanceKind} {id : String} {x : Element}
    (other : x.threat? ≠ some id) : x.concerns kind id = false := by
  cases x with
  | stance k s =>
    have apart : s.threat ≠ id := fun same => other (congrArg some same)
    simp [concerns, apart]
  | review r => rfl

def Coverage.tally (row : Coverage) : StanceKind → Nat
  | .mitigation => row.mitigations
  | .exposure => row.exposures
  | .transfer => row.transfers
  | .acceptance => row.acceptances

namespace Elements

def stanceCount (es : Elements) (kind : StanceKind) (id : String) : Nat :=
  ((es.stances kind).values.map fun group => group.countP (·.threat = id)).sum

theorem countP_toList (es : Elements) (kind : StanceKind) (id : String) :
    es.toList.countP (·.concerns kind id) = es.stanceCount kind id := by
  have same : (Element.concerns kind id) ∘ (Element.stance kind) = fun s => decide (s.threat = id) := by
    funext s
    simp [Element.concerns]
  have other {k : StanceKind} (apart : k ≠ kind) (ss : List Stance) :
      ss.countP (Element.concerns kind id ∘ Element.stance k) = 0 := by
    simp [List.countP_eq_zero, Element.concerns, apart]
  have review (rs : List Review) : rs.countP (Element.concerns kind id ∘ Element.review) = 0 := by
    simp [List.countP_eq_zero, Element.concerns]
  unfold toList stanceCount
  simp only [List.countP_append, List.countP_map, review, Nat.add_zero]
  cases kind <;>
    simp [same, other, stances, List.countP_flatten, -List.map_flatten, -List.countP_map]

theorem toList_merge (es fs : Elements) : (es.merge fs).toList.Perm (es.toList ++ fs.toList) := by
  have joined {α : Type} (m n : ElementMap α) (f : α → Element) (e : Element) :
      ((m.mergeWith (· ++ ·) n).values.flatten.map f).count e =
        (m.values.flatten.map f).count e + (n.values.flatten.map f).count e := by
    have all : ((m.mergeWith (· ++ ·) n).values.flatMap id).Perm
        (m.values.flatMap id ++ n.values.flatMap id) := perm_mergeWith (fun _ _ => .refl _) m n
    simp only [List.flatMap_id] at all
    rw [← List.count_append, ← List.map_append]
    exact (all.map f).count_eq e
  rw [List.perm_iff_count]
  intro e
  simp only [toList, merge, List.count_append, joined]
  omega

end Elements

namespace Document

def stanceCount (d : Document) (kind : StanceKind) (id : String) : Nat :=
  (d.projects.values.map (·.stanceCount kind id)).sum

theorem countP_elements (d : Document) (kind : StanceKind) (id : String) :
    d.elements.countP (·.concerns kind id) = d.stanceCount kind id := by
  rw [elements, List.countP_flatMap, stanceCount]
  congr 2
  funext es
  exact es.countP_toList kind id

theorem elements_merge (d e : Document) :
    (d.merge e).elements.Perm (d.elements ++ e.elements) :=
  perm_mergeWith Elements.toList_merge d.projects e.projects

theorem stanceCount_merge (d e : Document) (kind : StanceKind) (id : String) :
    (d.merge e).stanceCount kind id = d.stanceCount kind id + e.stanceCount kind id := by
  simp only [← countP_elements]
  rw [(elements_merge d e).countP_eq, List.countP_append]

theorem mem_elements {d : Document} {x : Element} :
    x ∈ d.elements ↔ ∃ project, d.Records project x := by
  simp only [elements, values, Records, List.mem_flatMap, List.mem_map, get?_eq_some]
  constructor
  · intro h
    obtain ⟨_, ⟨⟨project, es⟩, held, rfl⟩, member⟩ := h
    exact ⟨project, es, held, member⟩
  · intro h
    obtain ⟨project, es, held, member⟩ := h
    exact ⟨es, ⟨(project, es), held, rfl⟩, member⟩

def rowOf (d : Document) (xs : List Element) (id : String) : Coverage where
  id := id
  name := d.threatName id
  mitigations := xs.countP (·.concerns .mitigation id)
  exposures := xs.countP (·.concerns .exposure id)
  transfers := xs.countP (·.concerns .transfer id)
  acceptances := xs.countP (·.concerns .acceptance id)

theorem tally_rowOf (d : Document) (xs : List Element) (id : String) (kind : StanceKind) :
    (d.rowOf xs id).tally kind = xs.countP (·.concerns kind id) := by
  cases kind <;> rfl

theorem rowOf_concat_stance (d : Document) (xs : List Element) (kind : StanceKind) (s : Stance) :
    d.rowOf (xs ++ [.stance kind s]) s.threat = (d.rowOf xs s.threat).count kind := by
  cases kind <;> simp [rowOf, Coverage.count, Element.concerns]

theorem rowOf_concat_other (d : Document) (xs : List Element) {x : Element} {id : String}
    (other : x.threat? ≠ some id) : d.rowOf (xs ++ [x]) id = d.rowOf xs id := by
  simp [rowOf, Element.concerns_eq_false other]

def Covers (d : Document) (rows : SortedMap String Coverage) (xs : List Element) : Prop :=
  ∀ id row, rows.get? id = some row ↔
    row = d.rowOf xs id ∧ ∃ x ∈ xs, x.threat? = some id

theorem covers_nil (d : Document) : d.Covers ∅ [] := by
  intro id row
  simp

theorem Covers.getD {d : Document} {rows : SortedMap String Coverage} {xs : List Element}
    (counted : d.Covers rows xs) (id : String) :
    (rows.get? id).getD { id, name := d.threatName id } = d.rowOf xs id := by
  cases held : rows.get? id with
  | some row => exact ((counted id row).1 held).1
  | none =>
    have unseen : ∀ x ∈ xs, x.threat? ≠ some id := by
      intro x member regards
      have known := (counted id _).2 ⟨rfl, x, member, regards⟩
      rw [held] at known
      cases known
    have zero (kind : StanceKind) : xs.countP (·.concerns kind id) = 0 := by
      rw [List.countP_eq_zero]
      intro x member
      rw [Element.concerns_eq_false (unseen x member)]
      exact Bool.false_ne_true
    simp only [rowOf, zero, Option.getD_none]

theorem Covers.cover {d : Document} {rows : SortedMap String Coverage} {xs : List Element}
    (counted : d.Covers rows xs) (x : Element) : d.Covers (d.cover rows x) (xs ++ [x]) := by
  intro id row
  have seen : (∃ y ∈ xs ++ [x], y.threat? = some id) ↔
      (∃ y ∈ xs, y.threat? = some id) ∨ x.threat? = some id := by
    simp [or_and_right, exists_or]
  rw [seen]
  by_cases here : x.threat? = some id
  · cases x with
    | review r => cases here
    | stance kind s =>
      cases here
      have counts := counted.getD s.threat
      rw [rowOf_concat_stance, ← counts]
      simp [Document.cover, get?_upsert, Element.threat?, eq_comm]
  · have kept : (d.cover rows x).get? id = rows.get? id := by
      cases x with
      | review r => rfl
      | stance kind s =>
        have apart : id ≠ s.threat := fun same => here (congrArg some same.symm)
        simp [Document.cover, get?_upsert, apart]
    rw [kept, rowOf_concat_other d xs here, counted id row]
    simp [here]

theorem covers_foldl (d : Document) (xs : List Element) : d.Covers (xs.foldl d.cover ∅) xs := by
  induction xs using List.reverseRecOn with
  | nil => exact d.covers_nil
  | append_singleton xs x ih =>
    rw [List.foldl_concat]
    exact ih.cover x

theorem mem_coverage {d : Document} {row : Coverage} :
    row ∈ d.coverage ↔
      row = d.rowOf d.elements row.id ∧ ∃ x ∈ d.elements, x.threat? = some row.id := by
  have counted := d.covers_foldl d.elements
  simp only [coverage, values, List.mem_map, Prod.exists, exists_eq_right, ← get?_eq_some]
  constructor
  · intro h
    obtain ⟨id, held⟩ := h
    have here := (counted id row).1 held
    have same : row.id = id := congrArg Coverage.id here.1
    rw [same]
    exact here
  · intro here
    exact ⟨row.id, (counted row.id row).2 here⟩

theorem coverage_ascending (d : Document) : (d.coverage.map (·.id)).Pairwise (· < ·) := by
  have keys : d.coverage.map (·.id) = (d.elements.foldl d.cover ∅).keys := by
    simp only [coverage, values, SortedMap.keys, List.map_map]
    refine List.map_congr_left fun e member => ?_
    have held := get?_eq_some.2 member
    exact congrArg Coverage.id ((d.covers_foldl d.elements e.1 e.2).1 held).1
  rw [keys]
  exact List.pairwise_map.2 (d.elements.foldl d.cover ∅).sorted

theorem exists_threat_iff {d : Document} {id : String} :
    (∃ x ∈ d.elements, x.threat? = some id) ↔
      ∃ project kind s, d.Records project (.stance kind s) ∧ s.threat = id := by
  constructor
  · intro regarded
    obtain ⟨x, member, regards⟩ := regarded
    obtain ⟨project, recorded⟩ := mem_elements.1 member
    cases x with
    | stance kind s => exact ⟨project, kind, s, recorded, Option.some.inj regards⟩
    | review r => cases regards
  · intro recorded
    obtain ⟨project, kind, s, recorded, rfl⟩ := recorded
    exact ⟨.stance kind s, mem_elements.2 ⟨project, recorded⟩, rfl⟩

theorem threatName_merge (d e : Document) (id : String) :
    (d.merge e).threatName id =
      (d.threats.get? id).elim ((e.threats.get? id).elim id (·.name)) (·.name) := by
  simp only [threatName, merge, get?_union]
  cases d.threats.get? id <;> rfl

/-- The coverage of a merged document has one row, in ascending order, for each threat that an element
of either part refers to, and each count is the sum of those of the parts. -/
theorem coverage_merge (d e : Document) :
    ((d.merge e).coverage.map (·.id)).Pairwise (· < ·) ∧
    (∀ id, (∃ row ∈ (d.merge e).coverage, row.id = id) ↔
      ∃ project kind s, (d.Records project (.stance kind s) ∨ e.Records project (.stance kind s)) ∧
        s.threat = id) ∧
    ∀ row ∈ (d.merge e).coverage,
      (∀ kind, row.tally kind = d.stanceCount kind row.id + e.stanceCount kind row.id) ∧
      row.name =
        (d.threats.get? row.id).elim ((e.threats.get? row.id).elim row.id (·.name)) (·.name) := by
  refine ⟨coverage_ascending _, ?_, ?_⟩
  · intro id
    simp only [← records_merge, ← exists_threat_iff]
    constructor
    · intro h
      obtain ⟨row, member, rfl⟩ := h
      exact (mem_coverage.1 member).2
    · intro regarded
      exact ⟨(d.merge e).rowOf (d.merge e).elements id, mem_coverage.2 ⟨rfl, regarded⟩, rfl⟩
  · intro row member
    have counted := (mem_coverage.1 member).1
    constructor
    · intro kind
      rw [← stanceCount_merge, ← countP_elements, ← tally_rowOf, ← counted]
    · rw [← threatName_merge]
      exact congrArg Coverage.name counted

end Document
end ThreatModel
