import ThreatModel.Proofs.Registry.Extension
import ThreatModel.Proofs.Registry.Recorded

namespace ThreatModel

open SortedMap

/-- Each list has elements, and its key is the identifier of the text of each of them. -/
def GroupedBy {α : Type} (text : α → String) (m : ElementMap α) : Prop :=
  ∀ key items, m.get? key = some items →
    items ≠ [] ∧ ∀ x ∈ items, Identifier.ofText (text x) = key

section GroupedBy

variable {α : Type} {text : α → String} {m n : ElementMap α}

theorem groupedBy_empty : GroupedBy text ∅ := by
  intro key items held
  cases held

theorem GroupedBy.push (grouped : GroupedBy text m) (x : α) :
    GroupedBy text (m.push (Identifier.ofText (text x)) x) := by
  intro key items held
  rw [get?_push] at held
  by_cases here : key = Identifier.ofText (text x)
  · rw [if_pos here, ← here] at held
    obtain rfl := Option.some.inj held
    refine ⟨by simp, ?_⟩
    intro y member
    rcases List.mem_append.1 member with old | new
    · cases known : m.get? key with
      | none => simp [known] at old
      | some ys =>
        rw [known] at old
        exact (grouped key ys known).2 y old
    · rw [List.mem_singleton.1 new, here]
  · rw [if_neg here] at held
    exact grouped key items held

theorem GroupedBy.mergeWith (first : GroupedBy text m) (second : GroupedBy text n) :
    GroupedBy text (m.mergeWith (· ++ ·) n) := by
  refine of_get?_mergeWith first second ?_
  intro key xs ys left right
  refine ⟨List.append_ne_nil_of_left_ne_nil left.1 ys, ?_⟩
  intro x member
  exact (List.mem_append.1 member).elim (left.2 x) (right.2 x)

end GroupedBy

namespace Elements

structure Grouped (es : Elements) : Prop where
  stances : ∀ kind, GroupedBy Stance.text (es.stances kind)
  reviews : GroupedBy Review.text es.reviews

theorem grouped_new : ({} : Elements).Grouped where
  stances kind := by cases kind <;> exact groupedBy_empty
  reviews := groupedBy_empty

variable {es fs : Elements}

theorem Grouped.record (grouped : es.Grouped) (e : Element) :
    (es.record (Identifier.ofText e.text) e).Grouped := by
  cases e with
  | review r =>
    refine ⟨fun kind => ?_, grouped.reviews.push r⟩
    rw [Elements.record, stances_addReview]
    exact grouped.stances kind
  | stance kind s =>
    refine ⟨fun k => ?_, ?_⟩
    · by_cases here : k = kind
      · subst here
        have pushed := (grouped.stances k).push s
        cases k <;> exact pushed
      · have kept := grouped.stances k
        cases kind <;> cases k <;> first | exact kept | exact absurd rfl here
    · rw [Elements.record, reviews_addStance]
      exact grouped.reviews

theorem Grouped.merge (first : es.Grouped) (second : fs.Grouped) : (es.merge fs).Grouped where
  stances kind := by
    have joined := (first.stances kind).mergeWith (second.stances kind)
    cases kind <;> exact joined
  reviews := first.reviews.mergeWith second.reviews

end Elements

namespace Registry

variable {r : Registry}

theorem elements_proceed {decision : Except TagError Naming} {id : Naming → String}
    {noted : Naming → Registry} (kept : ∀ n, (noted n).elements = r.elements) :
    (r.proceed (decision.map fun n => (id n, noted n)) fun _ s => (s, none)).1.elements =
      r.elements := by
  rw [proceed_map]
  cases decision with
  | error e => rfl
  | ok n => exact kept n

theorem grouped_apply (grouped : r.elements.Grouped) (tag : Tag) :
    (r.apply tag).1.elements.Grouped := by
  rw [elements_apply]
  cases tag.element? with
  | none => exact grouped
  | some e => exact grouped.record e

theorem grouped_applyEach (grouped : r.elements.Grouped) (tags : List Tag) :
    (r.applyEach tags).1.elements.Grouped := by
  induction tags generalizing r with
  | nil => exact grouped
  | cons tag tags ih => exact ih (grouped_apply grouped tag)

theorem grouped_handle (grouped : r.elements.Grouped) (request : Request) :
    (r.handle request).elements.Grouped := by
  cases request with
  | addBoundary name id =>
    rw [handle, addBoundary_eq, elements_proceed (elements_noteBoundary r name)]
    exact grouped
  | addComponent boundary name id =>
    rw [handle, addComponent_eq, elements_proceed (elements_noteComponent r boundary name)]
    exact grouped
  | addThreat name id =>
    rw [handle, addThreat_eq, elements_proceed (elements_noteThreat r name)]
    exact grouped
  | apply tag => exact grouped_apply grouped tag
  | applyAll tags => exact grouped_applyEach grouped (inRankOrder tags)
  | importEntries d => exact grouped

theorem grouped_run (created updated : Int) (requests : List Request) :
    (requests.foldl handle { created, updated }).elements.Grouped := by
  -- Induction on the requests, from any registry whose elements are grouped.
  suffices run : ∀ r : Registry, r.elements.Grouped → (requests.foldl handle r).elements.Grouped from
    run _ Elements.grouped_new
  induction requests with
  | nil => exact fun r grouped => grouped
  | cons request requests ih => exact fun r grouped => ih _ (grouped_handle grouped request)

end Registry

namespace Document

/-- The exports of registries that were new before some requests, and all that is merged of them. -/
inductive Assembled : Document → Prop where
  | exported (created updated : Int) (requests : List Request) (project : String) :
    Assembled ((requests.foldl Registry.handle { created, updated }).toDocument project)
  | merged {d e : Document} (first : Assembled d) (second : Assembled e) : Assembled (d.merge e)

theorem Assembled.grouped {d : Document} (assembled : d.Assembled) (project : String)
    (es : Elements) (held : d.projects.get? project = some es) : es.Grouped := by
  induction assembled generalizing project es with
  | exported created updated requests name =>
    simp only [Registry.toDocument, get?_insert, get?_empty, Option.ite_none_right_eq_some] at held
    obtain ⟨-, same⟩ := held
    rw [← Option.some.inj same]
    exact Registry.grouped_run created updated requests
  | merged _ _ first second =>
    exact of_get?_mergeWith (P := fun _ es => es.Grouped) first second
      (fun _ _ _ left right => left.merge right) project es held

/-- Elements are grouped by their text in every registry that starts new, and in every project of
every document that is put together from exports. -/
theorem grouped_everywhere :
    (∀ (created updated : Int) (requests : List Request),
      (requests.foldl Registry.handle { created, updated }).elements.Grouped) ∧
    ∀ d : Document, d.Assembled → ∀ (project : String) (es : Elements),
      d.projects.get? project = some es → es.Grouped :=
  ⟨Registry.grouped_run, fun _ assembled => assembled.grouped⟩

def auditTags : List Tag :=
  [⟨.exposes, "@exposes Web:App to XSS with raw forms (#7)", { line := 1 }⟩,
   ⟨.exposes, "@exposes Web:Api to XSS with Raw Forms", { line := 2 }⟩,
   ⟨.reviews, "@review ...:App what is this?", { line := 3 }⟩]

def audit : Document :=
  ([.addBoundary "Web" none, .applyAll auditTags].foldl Registry.handle {}).toDocument "shop"

theorem grouped_audits :
    (audit.merge audit).Assembled ∧ ∃ es, (audit.merge audit).projects.get? "shop" = some es ∧
      es.exposures.entries.map (fun group => (group.1, group.2.length)) = [("@raw_forms", 4)] ∧
      es.Grouped := by
  have order : Registry.inRankOrder auditTags = auditTags := List.mergeSort_of_pairwise (by decide)
  have exported : audit.Assembled :=
    .exported 0 0 [.addBoundary "Web" none, .applyAll auditTags] "shop"
  have assembled := Assembled.merged exported exported
  have recorded : audit =
      (((({} : Registry).handle (.addBoundary "Web" none)).applyEach auditTags).1).toDocument "shop" := by
    rw [← order]
    rfl
  have listed : ((audit.merge audit).projects.get? "shop").map
      (fun es => es.exposures.entries.map fun group => (group.1, group.2.length)) =
        some [("@raw_forms", 4)] := by
    rw [recorded]
    decide +kernel
  obtain ⟨es, held, exposures⟩ := Option.map_eq_some_iff.1 listed
  exact ⟨assembled, es, held, exposures, grouped_everywhere.2 _ assembled "shop" es held⟩

end Document

end ThreatModel
