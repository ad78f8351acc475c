import ThreatModel.Proofs.Document.References
import ThreatModel.Proofs.Registry.Extension
import ThreatModel.Proofs.Registry.Precedence

namespace ThreatModel

open Identifier SortedMap

def EntryClass.reference (home name : String) : EntryClass → String
  | boundary | threat => ofText name
  | component => ofText home ++ ":" ++ ofText name

namespace Naming

theorem mem_given {home name : String} {cls : EntryClass} {names : List (EntryClass × String)}
    (complete : ∀ n ∈ names, ¬ Nameless n.2) (spelled : (cls, name) ∈ names)
    (fresh : isIdentifier name = false) : (cls.subject home name, name) ∈ given home names := by
  induction names with
  | nil => cases spelled
  | cons first names ih =>
    obtain ⟨c, n⟩ := first
    have named : ¬ Nameless n := complete (c, n) List.mem_cons_self
    have later : (cls, name) ∈ names → (cls.subject home name, name) ∈ given home names :=
      ih fun m member => complete m (List.mem_cons_of_mem _ member)
    rw [given, if_neg named]
    rcases List.mem_cons.1 spelled with here | member
    · cases here
      rw [fresh]
      exact List.mem_cons_self
    · split
      · exact later member
      · exact List.mem_cons_of_mem _ (later member)

end Naming

theorem Statement.mem_registers {s : Statement} {source : Source} {e : Element}
    (recorded : s.element? source = some e) (complete : s.nameless? = none) {cls : EntryClass}
    {name : String} (spelled : (cls, name) ∈ s.names) (fresh : isIdentifier name = false) :
    (cls.subject s.home name, name) ∈ s.registers := by
  have named : ∀ n ∈ s.names, ¬ Naming.Nameless n.2 := by
    simpa [Statement.nameless?] using complete
  cases s with
  | naming | describing | connecting => cases recorded
  | reviewing | standing => exact Naming.mem_given named spelled fresh

/-- The issue is about a part of the tag's element that the tag spells as an identifier. -/
def Tag.Spells (tag : Tag) (project : String) (i : ReferenceIssue) : Prop :=
  ∃ s e name, Statement.ofText? tag.kind tag.text = some s ∧ s.element? tag.source = some e ∧
    (i.cls, name) ∈ s.names ∧ isIdentifier name = true ∧
    i = ⟨Document.elementContext project e, i.cls, i.cls.reference s.home name, tag.source.location⟩

namespace Registry

variable {r : Registry} {project : String}

theorem records_toDocument {p : String} {e : Element} :
    (r.toDocument project).Records p e ↔ p = project ∧ e ∈ r.elements.toList := by
  simp only [Document.Records, toDocument, get?_insert, get?_empty]
  by_cases here : p = project <;> simp [here]

theorem boundary_contains {id : String} :
    (r.toDocument project).boundaries.contains id = (r.held? (.boundary id)).isSome := rfl

theorem component_isSome {b id : String} :
    ((r.toDocument project).component? b id).isSome = (r.held? (.component b id)).isSome := rfl

theorem threat_contains {id : String} :
    (r.toDocument project).threats.contains id = (r.held? (.threat id)).isSome := rfl

theorem mem_unless_held {held? : Option Entry} {i issue : ReferenceIssue} :
    i ∈ (if held?.isSome then [] else [issue]) ↔ held? = none ∧ i = issue := by
  cases held? <;> simp

theorem mem_placeIssues {context location : String} {place : Place} {i : ReferenceIssue} :
    i ∈ (r.toDocument project).placeIssues context place location ↔
      (r.held? (.boundary place.boundary) = none ∧
        i = ⟨context, .boundary, place.boundary, location⟩) ∨
      (r.held? (.component place.boundary place.component) = none ∧
        i = ⟨context, .component, place.boundary ++ ":" ++ place.component, location⟩) := by
  rw [Document.placeIssues, boundary_contains, component_isSome, List.mem_append, mem_unless_held,
    mem_unless_held]

theorem mem_threatIssues {e : Element} {i : ReferenceIssue} :
    i ∈ (r.toDocument project).elementThreatIssues project e ↔
      ∃ threat, e.threat? = some threat ∧ r.held? (.threat threat) = none ∧
        i = ⟨Document.elementContext project e, .threat, threat, e.source.location⟩ := by
  unfold Document.elementThreatIssues
  cases e.threat? with
  | none => simp
  | some threat =>
    dsimp only
    rw [threat_contains, mem_unless_held]
    simp

theorem mem_elementIssues {s : Statement} {source : Source} {e : Element}
    (recorded : s.element? source = some e) {i : ReferenceIssue} :
    (i ∈ (r.toDocument project).elementPlaceIssues project e ∨
        i ∈ (r.toDocument project).elementThreatIssues project e) ↔
      ∃ name, (i.cls, name) ∈ s.names ∧ r.held? (i.cls.subject s.home name) = none ∧
        i = ⟨Document.elementContext project e, i.cls, i.cls.reference s.home name,
          source.location⟩ := by
  obtain ⟨context, cls, id, location⟩ := i
  rw [Document.elementPlaceIssues, mem_placeIssues, mem_threatIssues]
  cases s with
  | naming | describing | connecting => cases recorded
  | reviewing place text =>
    obtain rfl := Option.some.inj recorded
    cases cls <;>
      simp [Statement.names, EntryClass.subject, EntryClass.reference, Statement.home,
        Element.boundary, Element.component, Element.threat?, Element.source]
  | standing kind place threat text =>
    obtain rfl := Option.some.inj recorded
    have names : ∀ c n, (c, n) ∈ (Statement.standing kind place threat text).names ↔
        (c, n) ∈ [(EntryClass.boundary, place.boundary), (.component, place.component),
          (.threat, threat)] := by
      intro c n
      cases first : placeComesFirst kind <;> simp [Statement.names, first, or_comm, or_left_comm]
    simp only [names]
    cases cls <;>
      simp [EntryClass.subject, EntryClass.reference, Statement.home,
        Element.boundary, Element.component, Element.threat?, Element.source]

theorem dataflow_foldl_perform {updates : List Update}
    (unconnected : ∀ c, Update.connect c ∉ updates) (r : Registry) :
    (updates.foldl perform r).dataflow = r.dataflow := by
  induction updates generalizing r with
  | nil => rfl
  | cons u updates ih =>
    have later := ih (fun c member => unconnected c (List.mem_cons_of_mem _ member)) (r.perform u)
    rw [List.foldl_cons, later]
    cases u with
    | connect c => exact absurd List.mem_cons_self (unconnected c)
    | declare subject name => cases subject <;> rfl
    | record key e => rfl

theorem dataflow_state (r : Registry) (source : Source) {s : Statement} (other : s.kind ≠ .connects) :
    (r.state source s).1.dataflow = r.dataflow := by
  by_cases describes : s.kind = .describes
  · obtain ⟨subject, text, rfl⟩ := Statement.eq_describing describes
    exact dataflow_describeSubject r text source subject
  · rw [state_eq r source describes]
    refine dataflow_foldl_perform ?_ r
    intro c member
    rcases List.mem_append.1 member with declared | last
    · obtain ⟨_, _, same⟩ := List.mem_map.1 declared
      cases same
    · cases failed : s.failure? with
      | some error =>
        rw [failed] at last
        cases last
      | none =>
        rw [failed, Option.elim_none] at last
        cases s with
        | connecting => exact other rfl
        | naming | describing => cases last
        | reviewing | standing => simp [Statement.last, Statement.element?] at last

theorem dataflow_applyEach (r : Registry) {tags : List Tag}
    (unconnected : ∀ tag ∈ tags, tag.kind ≠ .connects) :
    (r.applyEach tags).1.dataflow = r.dataflow := by
  induction tags generalizing r with
  | nil => rfl
  | cons tag tags ih =>
    have later := ih (r.apply tag).1 fun tag member =>
      unconnected tag (List.mem_cons_of_mem _ member)
    have first : (r.apply tag).1.dataflow = r.dataflow := by
      unfold apply
      cases read : Statement.ofText? tag.kind tag.text with
      | none => rfl
      | some s =>
        have kind := Statement.kind_of_ofText? read
        refine dataflow_state r tag.source ?_
        rw [kind]
        exact unconnected tag List.mem_cons_self
    exact later.trans first

theorem held?_applyAll_eq_none {r : Registry} {tags : List Tag} {t : Subject}
    (absent : r.held? t = none) :
    (r.applyAll tags).1.held? t = none ↔
      ∀ tag ∈ tags, ∀ name, (t, name) ∉ tag.registers := by
  have held := isSome_held?_applyEach r (inRankOrder tags) t
  simp only [absent, Option.isSome_none, Bool.false_eq_true, false_or, mem_inRankOrder,
    isSome_namedFor?] at held
  rw [← Option.not_isSome_iff_eq_none, applyAll, held]
  simp

theorem mem_referenceIssues_applyAll {r : Registry} {tags : List Tag} {project : String}
    (new : ∀ t, r.held? t = none) (empty : r.elements.toList = []) (unlinked : r.dataflow = {})
    (unconnected : ∀ tag ∈ tags, tag.kind ≠ .connects) {i : ReferenceIssue} :
    i ∈ ((r.applyAll tags).1.toDocument project).referenceIssues ↔
      ∃ tag ∈ tags, ∃ s e name, Statement.ofText? tag.kind tag.text = some s ∧
        s.nameless? = none ∧ s.element? tag.source = some e ∧ (i.cls, name) ∈ s.names ∧
        (∀ other ∈ tags, ∀ n, (i.cls.subject s.home name, n) ∉ other.registers) ∧
        i = ⟨Document.elementContext project e, i.cls, i.cls.reference s.home name,
          tag.source.location⟩ := by
  have edges : ((r.applyAll tags).1.toDocument project).dataflow.connections = [] := by
    have kept : (r.applyAll tags).1.dataflow = {} := by
      rw [← unlinked]
      exact dataflow_applyEach r fun tag member => unconnected tag (mem_inRankOrder.1 member)
    show (r.applyAll tags).1.dataflow.connections = []
    rw [kept]
    rfl
  have recorded (e : Element) : e ∈ (r.applyAll tags).1.elements.toList ↔
      ∃ tag ∈ tags, tag.element? = some e := by
    rw [applyAll, mem_elements_applyEach, empty]
    simp [mem_inRankOrder]
  simp only [Document.mem_referenceIssues, edges, List.not_mem_nil, false_and, exists_false, or_false,
    records_toDocument, recorded]
  constructor
  · intro h
    obtain ⟨_, e, ⟨rfl, tag, member, records⟩, about⟩ := h
    obtain ⟨s, read, complete, adds⟩ := Tag.element?_eq_some.1 records
    obtain ⟨name, spelled, missing, same⟩ := (mem_elementIssues adds).1 about
    exact ⟨tag, member, s, e, name, read, complete, adds, spelled,
      (held?_applyAll_eq_none (new _)).1 missing, same⟩
  · intro h
    obtain ⟨tag, member, s, e, name, read, complete, adds, spelled, unregistered, same⟩ := h
    have records : tag.element? = some e := Tag.element?_eq_some.2 ⟨s, read, complete, adds⟩
    have missing := (held?_applyAll_eq_none (new _)).2 unregistered
    exact ⟨project, e, ⟨rfl, tag, member, records⟩,
      (mem_elementIssues adds).2 ⟨name, spelled, missing, same⟩⟩

theorem error_apply_of_element {tag : Tag} {e : Element} (records : tag.element? = some e)
    (r : Registry) : (r.apply tag).2 = none := by
  obtain ⟨s, read, complete, adds⟩ := Tag.element?_eq_some.1 records
  have settled := apply_of_worded r read adds
  rw [Settled, show s.names.find? _ = _ from complete] at settled
  exact settled.1

theorem isIdentifier_of_unregistered {tag : Tag} {s : Statement} {e : Element}
    {cls : EntryClass} {name : String} (read : Statement.ofText? tag.kind tag.text = some s)
    (complete : s.nameless? = none) (adds : s.element? tag.source = some e)
    (spelled : (cls, name) ∈ s.names)
    (unregistered : ∀ n, (cls.subject s.home name, n) ∉ tag.registers) :
    isIdentifier name = true := by
  by_contra fresh
  have registered := Statement.mem_registers adds complete spelled (Bool.eq_false_iff.2 fresh)
  have listed : (cls.subject s.home name, name) ∈ tag.registers := by
    rw [Tag.registers, read]
    exact registered
  exact unregistered name listed

theorem exists_spells {r : Registry} {tags : List Tag} {project : String}
    (new : ∀ t, r.held? t = none) (empty : r.elements.toList = []) (unlinked : r.dataflow = {})
    (unconnected : ∀ tag ∈ tags, tag.kind ≠ .connects) {i : ReferenceIssue}
    (issue : i ∈ ((r.applyAll tags).1.toDocument project).referenceIssues) :
    ∃ tag ∈ tags, (∀ r : Registry, (r.apply tag).2 = none) ∧ tag.Spells project i := by
  obtain ⟨tag, member, s, e, name, read, complete, adds, spelled, unregistered, same⟩ :=
    (mem_referenceIssues_applyAll new empty unlinked unconnected).1 issue
  have applied := error_apply_of_element (Tag.element?_eq_some.2 ⟨s, read, complete, adds⟩)
  have explicit := isIdentifier_of_unregistered read complete adds spelled (unregistered tag member)
  exact ⟨tag, member, applied, s, e, name, read, adds, spelled, explicit, same⟩

/-- Each issue of the export is about a part that a tag spells as an identifier, and the tag is
applied; without such a spelling there are no issues. -/
theorem referenceIssues_applyAll (created updated : Int) (project : String) {tags : List Tag}
    (unconnected : ∀ tag ∈ tags, tag.kind ≠ .connects) :
    (∀ i ∈ ((({ created, updated } : Registry).applyAll tags).1.toDocument project).referenceIssues,
      ∃ tag ∈ tags, (∀ r : Registry, (r.apply tag).2 = none) ∧ tag.Spells project i) ∧
    ((∀ tag ∈ tags, ∀ s, Statement.ofText? tag.kind tag.text = some s →
        ∀ name ∈ s.names, isIdentifier name.2 = false) →
      ((({ created, updated } : Registry).applyAll tags).1.toDocument project).referenceIssues = []) := by
  have new : ∀ t, ({ created, updated } : Registry).held? t = none := by
    intro t
    cases t <;> rfl
  constructor
  · intro i issue
    exact exists_spells new rfl rfl unconnected issue
  · intro plain
    refine List.eq_nil_iff_forall_not_mem.2 ?_
    intro i issue
    obtain ⟨tag, member, _, s, e, name, read, _, spelled, explicit, _⟩ :=
      exists_spells new rfl rfl unconnected issue
    rw [plain tag member s read (i.cls, name) spelled] at explicit
    cases explicit

def formTags : List Tag :=
  [⟨.reviews, "@review Web:App is this public?", { line := 1 }⟩,
   ⟨.exposes, "@exposes @user:Form to @xss with raw output", { line := 2 }⟩,
   ⟨.mitigates, "@mitigates @web:App against XSS with encoding", { line := 3 }⟩]

theorem referenceIssues_formTags :
    (∀ tag ∈ formTags, tag.kind ≠ .connects) ∧
    ((({} : Registry).applyAll formTags).1.toDocument "shop").referenceIssues =
      [⟨"shop/exposure", .boundary, "@user", "@2"⟩] ∧
    (∃ tag ∈ formTags, tag.Spells "shop" ⟨"shop/exposure", .boundary, "@user", "@2"⟩) ∧
    ((({} : Registry).applyAll [formTags[0]]).1.toDocument "shop").referenceIssues = [] := by
  have sorted : inRankOrder formTags = formTags := List.mergeSort_of_pairwise (by decide)
  have issues : ((({} : Registry).applyAll formTags).1.toDocument "shop").referenceIssues =
      [⟨"shop/exposure", .boundary, "@user", "@2"⟩] := by
    unfold applyAll
    rw [sorted]
    decide +kernel
  have unconnected : ∀ tag ∈ formTags, tag.kind ≠ .connects := by decide
  have member : ⟨"shop/exposure", .boundary, "@user", "@2"⟩ ∈
      ((({} : Registry).applyAll formTags).1.toDocument "shop").referenceIssues := by
    rw [issues]
    exact List.mem_cons_self
  obtain ⟨tag, inside, _, spells⟩ := (referenceIssues_applyAll 0 0 "shop" unconnected).1 _ member
  have alone : ∀ tag ∈ [formTags[0]], tag.kind ≠ .connects := by decide
  have read : Statement.ofText? formTags[0].kind formTags[0].text =
      some (.reviewing ⟨"Web", "App"⟩ "is this public?") := by decide +kernel
  refine ⟨unconnected, issues, ⟨tag, inside, spells⟩,
    (referenceIssues_applyAll 0 0 "shop" alone).2 ?_⟩
  intro first same s spoken name about
  rw [List.mem_singleton.1 same, read] at spoken
  obtain rfl := Option.some.inj spoken
  revert name
  decide

end Registry

end ThreatModel
