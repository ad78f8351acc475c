import Mathlib.Data.List.Forall2
import ThreatModel.Proofs.Document.Coverage
import ThreatModel.Proofs.Registry.Implicit
import ThreatModel.Proofs.Registry.Joined

namespace ThreatModel

namespace Elements

theorem groupedCount_eq_length {α : Type} (m : ElementMap α) :
    groupedCount m = m.values.flatten.length := by
  have grown (lists : List (List α)) (n : Nat) :
      lists.foldl (fun n es => n + es.length) n = n + lists.flatten.length := by
    induction lists generalizing n with
    | nil => rfl
    | cons es lists ih =>
      rw [List.foldl_cons, ih, List.flatten_cons, List.length_append]
      omega
  rw [groupedCount, grown, Nat.zero_add]

theorem count_eq_length (es : Elements) : es.count = es.toList.length := by
  simp only [count, groupedCount_eq_length, toList, List.length_append, List.length_map]
  omega

theorem toList_record (es : Elements) (key : String) (e : Element) :
    (es.record key e).toList.Perm (es.toList ++ [e]) := by
  have apart : es.record key e = es.merge (({} : Elements).record key e) := by
    rw [merge_record]
    rfl
  have alone : (({} : Elements).record key e).toList = [e] := by
    cases e with
    | stance kind s => cases kind <;> rfl
    | review review => rfl
  rw [apart, ← alone]
  exact toList_merge es _

end Elements

theorem Statement.kind_of_element? {s : Statement} {source : Source} {e : Element}
    (recorded : s.element? source = some e) : e.kind = s.kind ∧ e.source = source := by
  cases s with
  | naming | describing | connecting => cases recorded
  | reviewing | standing =>
    obtain rfl := Option.some.inj recorded
    exact ⟨rfl, rfl⟩

theorem Statement.exists_element_of_records {s : Statement} (records : s.kind.records = true)
    (source : Source) : ∃ e, s.element? source = some e := by
  cases s with
  | naming | describing | connecting => cases records
  | reviewing | standing => exact ⟨_, rfl⟩

namespace Tag

theorem kind_of_element? {tag : Tag} {e : Element} (records : tag.element? = some e) :
    e.kind = tag.kind ∧ e.source = tag.source := by
  obtain ⟨s, read, _, adds⟩ := element?_eq_some.1 records
  obtain ⟨kind, source⟩ := Statement.kind_of_element? adds
  exact ⟨kind.trans (Statement.kind_of_ofText? read), source⟩

end Tag

theorem StanceKind.records_tagKind (kind : StanceKind) : kind.tagKind.records = true := by
  cases kind <;> rfl

theorem Element.records_kind (e : Element) : e.kind.records = true := by
  cases e with
  | stance kind s => exact kind.records_tagKind
  | review review => rfl

namespace Registry

/-- The tags of a list that are applied without an error, when all are applied in turn. -/
def applied (r : Registry) : List Tag → List Tag
  | [] => []
  | tag :: tags =>
    match r.apply tag with
    | (s, none) => tag :: applied s tags
    | (s, some _) => applied s tags

theorem apply_eq_none_iff {tag : Tag} (records : tag.kind.records = true) (r : Registry) :
    (r.apply tag).2 = none ↔ ∃ e, tag.element? = some e := by
  constructor
  · intro done
    cases read : Statement.ofText? tag.kind tag.text with
    | none =>
      unfold apply at done
      rw [read] at done
      cases done
    | some s =>
      have kind := Statement.kind_of_ofText? read
      obtain ⟨e, adds⟩ := Statement.exists_element_of_records (kind ▸ records) tag.source
      have settled := apply_of_worded r read adds
      cases named : s.nameless? with
      | none => exact ⟨e, Tag.element?_eq_some.2 ⟨s, read, named, adds⟩⟩
      | some name =>
        rw [Settled, show s.names.find? _ = _ from named, done] at settled
        cases settled.1
  · intro h
    obtain ⟨e, found⟩ := h
    exact error_apply_of_element found r

section Applied

variable {r s : Registry} {tag : Tag} (tags : List Tag)

theorem applied_of_done (step : r.apply tag = (s, none)) :
    r.applied (tag :: tags) = tag :: s.applied tags := by
  rw [applied, step]

theorem applied_of_failed {e : TagError} (step : r.apply tag = (s, some e)) :
    r.applied (tag :: tags) = s.applied tags := by
  rw [applied, step]

end Applied

theorem length_applied (r : Registry) (tags : List Tag) :
    (r.applied tags).length + (r.applyEach tags).2.length = tags.length := by
  induction tags generalizing r with
  | nil => rfl
  | cons tag tags ih =>
    rcases step : r.apply tag with ⟨s, _ | error⟩
    · have later := ih s
      rw [applied_of_done tags step]
      simp only [applyEach, step, Option.toList_none, List.nil_append, List.length_cons]
      omega
    · have later := ih s
      rw [applied_of_failed tags step]
      simp only [applyEach, step, Option.toList_some, List.length_append, List.length_cons,
        List.length_nil]
      omega

theorem forall₂_applied (r : Registry) (tags : List Tag) :
    List.Forall₂ (fun tag e => tag.element? = some e)
      ((r.applied tags).filter fun tag => tag.kind.records) (tags.filterMap Tag.element?) := by
  induction tags generalizing r with
  | nil => exact .nil
  | cons tag tags ih =>
    rcases step : r.apply tag with ⟨s, _ | error⟩
    · have done : (r.apply tag).2 = none := congrArg Prod.snd step
      rw [applied_of_done tags step]
      by_cases records : tag.kind.records = true
      · obtain ⟨e, found⟩ := (apply_eq_none_iff records r).1 done
        rw [List.filterMap_cons_some found,
          List.filter_cons_of_pos (p := fun tag : Tag => tag.kind.records) records]
        exact .cons found (ih s)
      · have nothing : tag.element? = none := by
          refine Option.eq_none_iff_forall_ne_some.2 fun e found => records ?_
          rw [← (Tag.kind_of_element? found).1]
          exact e.records_kind
        rw [List.filterMap_cons_none nothing,
          List.filter_cons_of_neg (p := fun tag : Tag => tag.kind.records) records]
        exact ih s
    · have nothing : tag.element? = none := by
        refine Option.eq_none_iff_forall_ne_some.2 fun e found => ?_
        have done := error_apply_of_element found r
        rw [step] at done
        cases done
      rw [applied_of_failed tags step, List.filterMap_cons_none nothing]
      exact ih s

theorem forall₂_applied_kind (r : Registry) (tags : List Tag) {kind : TagKind}
    (records : kind.records = true) :
    List.Forall₂ (fun tag e => tag.element? = some e ∧ e.source = tag.source)
      ((r.applied tags).filter fun tag => tag.kind = kind)
      ((tags.filterMap Tag.element?).filter fun e => e.kind = kind) := by
  have kinds : (r.applied tags).filter (fun tag => tag.kind = kind) =
      ((r.applied tags).filter fun tag => tag.kind.records).filter fun tag => tag.kind = kind := by
    rw [List.filter_filter]
    refine List.filter_congr fun tag _ => ?_
    by_cases here : tag.kind = kind
    · simp [here, records]
    · simp [here]
  rw [kinds]
  have pairs : List.Forall₂ (fun tag e => tag.element? = some e)
      (((r.applied tags).filter fun tag => tag.kind.records).filter fun tag => tag.kind = kind)
      ((tags.filterMap Tag.element?).filter fun e => e.kind = kind) := by
    refine List.rel_filter (fun tag e found => ?_) (forall₂_applied r tags)
    dsimp only
    rw [(Tag.kind_of_element? found).1]
  exact pairs.imp fun tag e found => ⟨found, (Tag.kind_of_element? found).2⟩

theorem toList_applyEach (r : Registry) (tags : List Tag) :
    (r.applyEach tags).1.elements.toList.Perm
      (r.elements.toList ++ tags.filterMap Tag.element?) := by
  induction tags generalizing r with
  | nil => simp [applyEach]
  | cons tag tags ih =>
    have later := ih (r.apply tag).1
    rw [elements_apply] at later
    simp only [applyEach]
    refine later.trans ?_
    cases found : tag.element? with
    | none => rw [List.filterMap_cons_none found, Option.elim_none]
    | some e =>
      have added := (r.elements.toList_record (Identifier.ofText e.text) e).append_right
        (tags.filterMap Tag.element?)
      rw [List.filterMap_cons_some found, Option.elim_some]
      simpa using added

theorem listed_applyEach (r : Registry) (tags : List Tag) (kind : TagKind) (key : String) :
    ((r.applyEach tags).1.elements.listed kind key).getD [] =
      (r.elements.listed kind key).getD [] ++
        (tags.filterMap Tag.element?).filter fun e =>
          e.kind = kind ∧ Identifier.ofText e.text = key := by
  induction tags generalizing r with
  | nil => simp [applyEach]
  | cons tag tags ih =>
    simp only [applyEach]
    rw [ih, elements_apply]
    cases found : tag.element? with
    | none => rw [List.filterMap_cons_none found, Option.elim_none]
    | some e =>
      rw [List.filterMap_cons_some found, Option.elim_some, Elements.listed_record]
      by_cases here : kind = e.kind ∧ key = Identifier.ofText e.text
      · obtain ⟨rfl, rfl⟩ := here
        simp
      · have elsewhere : ¬ (e.kind = kind ∧ Identifier.ofText e.text = key) :=
          fun h => here ⟨h.1.symm, h.2.symm⟩
        rw [if_neg here, List.filter_cons_of_neg (by simpa using elsewhere)]

/-- A tag of a batch is applied or fails. After the batch the registry has one element more for each
tag that was applied and can record one, the elements of each kind are those it had and those of the
tags of that kind, and its export has them all. -/
theorem elements_applyAll (r : Registry) (tags : List Tag) (project : String) :
    (r.applied (inRankOrder tags)).length + (r.applyAll tags).2.length = tags.length ∧
      (r.applyAll tags).1.elementCount = r.elementCount +
        ((r.applied (inRankOrder tags)).filter fun tag => tag.kind.records).length ∧
      (∀ kind : TagKind, kind.records = true → ∃ added : List Element,
        List.Forall₂ (fun tag e => tag.element? = some e ∧ e.source = tag.source)
          ((r.applied (inRankOrder tags)).filter fun tag => tag.kind = kind) added ∧
        ((r.applyAll tags).1.elements.toList.filter fun e => e.kind = kind).Perm
          ((r.elements.toList.filter fun e => e.kind = kind) ++ added) ∧
        ∀ key, ((r.applyAll tags).1.elements.listed kind key).getD [] =
          (r.elements.listed kind key).getD [] ++
            added.filter fun e => Identifier.ofText e.text = key) ∧
      ∃ es, ((r.applyAll tags).1.toDocument project).projects.get? project = some es ∧
        es.toList.length = (r.applyAll tags).1.elementCount := by
  have all := toList_applyEach r (inRankOrder tags)
  refine ⟨?_, ?_, ?_, ?_⟩
  · rw [applyAll, length_applied]
    exact (List.mergeSort_perm tags _).length_eq
  · have counted := all.length_eq
    rw [List.length_append, ← (forall₂_applied r (inRankOrder tags)).length_eq] at counted
    simp only [elementCount, Elements.count_eq_length]
    exact counted
  · intro kind records
    refine ⟨((inRankOrder tags).filterMap Tag.element?).filter fun e => e.kind = kind,
      forall₂_applied_kind r _ records, ?_, ?_⟩
    · rw [← List.filter_append]
      exact all.filter _
    · intro key
      rw [applyAll, listed_applyEach, List.filter_filter]
      simp only [Bool.decide_and, Bool.and_comm]
  · refine ⟨(r.applyAll tags).1.elements, SortedMap.get?_insert_self _ _ _, ?_⟩
    exact (Elements.count_eq_length _).symm

def loginBatch : List Tag :=
  [⟨.aliases, "@alias boundary @web to Web shop", { line := 1 }⟩,
   ⟨.exposes, "@exposes Web:... to theft with weak passwords", { line := 2 }⟩,
   ⟨.accepts, "@accepts theft to Web:... with weak passwords", { line := 3 }⟩,
   ⟨.exposes, "@exposes Web:Login to theft with weak passwords", { line := 4 }⟩,
   ⟨.exposes, "@exposes Web:Login to fraud with weak passwords (#7)", { line := 5 }⟩]

theorem elements_loginBatch :
    TagKind.exposes.records = true ∧
      (({} : Registry).applyAll loginBatch).1.elementCount = 2 ∧
      (({} : Registry).applied loginBatch).map (·.source.line) = [1, 4, 5] ∧
      ∃ added : List Element, added.map (·.source.line) = [4, 5] ∧
        ((({} : Registry).applyAll loginBatch).1.elements.listed .exposes "@weak_passwords").getD [] =
          added.filter fun e => Identifier.ofText e.text = "@weak_passwords" := by
  have sorted : inRankOrder loginBatch = loginBatch := List.mergeSort_of_pairwise (by decide)
  have done : ({} : Registry).applied loginBatch = [loginBatch[0], loginBatch[3], loginBatch[4]] := by
    decide +kernel
  have records : TagKind.exposes.records = true := rfl
  obtain ⟨_, counted, kinds, _⟩ := elements_applyAll {} loginBatch "shop"
  obtain ⟨added, pairs, _, lists⟩ := kinds .exposes records
  rw [sorted, done] at counted pairs
  refine ⟨records, counted, by rw [done]; rfl, added, ?_, lists _⟩
  have two : [loginBatch[0], loginBatch[3], loginBatch[4]].filter (·.kind = .exposes) =
      [loginBatch[3], loginBatch[4]] := rfl
  rw [two] at pairs
  cases pairs with
  | cons first later =>
    cases later with
    | cons second none =>
      cases none
      rw [List.map_cons, List.map_cons, first.2, second.2]
      rfl

end Registry

end ThreatModel
