import ThreatModel.Proofs.Registry.Recorded
import ThreatModel.Proofs.Registry.Uniform
import ThreatModel.Proofs.Tag.Comment
import ThreatModel.Proofs.Tag.Names

namespace ThreatModel

open Identifier

def Subject.ids : Subject → List String
  | .boundary id => [id]
  | .component home id => [home, id]
  | .threat id => [id]

def Place.ids (p : Place) : List String := [p.boundary, p.component]

def Connection.ids (c : Connection) : List String := c.origin.ids ++ c.target.ids

def Element.ids (e : Element) : List String := e.boundary :: e.component :: e.threat?.toList

def Contents.ids (c : Contents) : Set String :=
  c.boundaries ∪ c.hosts ∪ Place.component '' c.places ∪ c.threats ∪
    {id | ∃ l ∈ c.links, id ∈ l.1.ids ++ l.2.ids}

theorem Contents.ids_add (a b : Contents) : (a + b).ids = a.ids ∪ b.ids := by
  have links : {id | ∃ l ∈ a.links ∪ b.links, id ∈ l.1.ids ++ l.2.ids} =
      {id | ∃ l ∈ a.links, id ∈ l.1.ids ++ l.2.ids} ∪
        {id | ∃ l ∈ b.links, id ∈ l.1.ids ++ l.2.ids} := by
    ext id
    simp only [Set.mem_union, or_and_right, exists_or, Set.mem_ofPred_eq]
  simp only [ids, add_def, Set.image_union, links]
  ac_rfl

inductive Operation where
  | apply (tag : Tag)
  | addBoundary (name : String)
  | addComponent (boundary name : String)
  | addThreat (name : String)

namespace Registry

def operate (r : Registry) : Operation → Registry
  | .apply tag => (r.apply tag).1
  | .addBoundary name => (r.proceed (r.addBoundary name none) fun _ r => (r, none)).1
  | .addComponent boundary name =>
    (r.proceed (r.addComponent boundary name none) fun _ r => (r, none)).1
  | .addThreat name => (r.proceed (r.addThreat name none) fun _ r => (r, none)).1

/-- The registry has the identifier as a key, in an element or at an end of an edge. -/
@[mk_iff]
inductive Mentions (r : Registry) (id : String) : Prop
  | boundary (known : r.boundaries.contains id)
  | host (known : r.components.contains id)
  | component (boundary : String) (held : SortedMap String Entry)
      (host : r.components.get? boundary = some held) (known : held.contains id)
  | threat (known : r.threats.contains id)
  | element (e : Element) (recorded : e ∈ r.elements.toList) (about : id ∈ e.ids)
  | endpoint (c : Connection) (connected : c ∈ r.dataflow.connections) (about : id ∈ c.ids)

def Filled (r : Registry) : Prop := ∀ id, r.Mentions id → ¬ Blank id

def ElementMentions (r : Registry) (id : String) : Prop := ∃ e ∈ r.elements.toList, id ∈ e.ids

theorem mentions_iff_contents (r : Registry) (id : String) :
    r.Mentions id ↔ id ∈ r.contents.ids ∨ r.ElementMentions id := by
  have places : (∃ boundary held, r.components.get? boundary = some held ∧
      held.contains id = true) ↔ id ∈ Place.component '' r.contents.places := by
    constructor
    · intro h
      obtain ⟨boundary, held, host, known⟩ := h
      exact ⟨⟨boundary, id⟩, ⟨held, host, known⟩, rfl⟩
    · intro h
      obtain ⟨⟨boundary, _⟩, ⟨held, host, known⟩, rfl⟩ := h
      exact ⟨boundary, held, host, known⟩
  have links : (∃ c ∈ r.dataflow.connections, id ∈ c.ids) ↔
      ∃ l ∈ r.contents.links, id ∈ l.1.ids ++ l.2.ids := by
    constructor
    · intro h
      obtain ⟨c, connected, about⟩ := h
      exact ⟨(c.origin, c.target), by simp [contents, Dataflow.mem_connections.1 connected], about⟩
    · intro h
      obtain ⟨⟨origin, target⟩, linked, about⟩ := h
      obtain ⟨edge, held⟩ := Option.isSome_iff_exists.1 linked
      exact ⟨⟨origin, target, edge⟩, Dataflow.mem_connections.2 held, about⟩
  rw [mentions_iff, places, links, or_comm (a := ∃ e ∈ r.elements.toList, id ∈ e.ids)]
  simp only [Contents.ids, Set.mem_union, or_assoc]
  rfl

def Update.ids : Update → List String
  | .declare subject _ => subject.ids
  | .connect c => c.ids
  | .record _ e => e.ids

theorem elementMentions_perform {r : Registry} {u : Update} {id : String} :
    (r.perform u).ElementMentions id ↔
      r.ElementMentions id ∨ ∃ key e, u = .record key e ∧ id ∈ e.ids := by
  cases u with
  | declare subject name => cases subject <;> simp [ElementMentions, perform]
  | connect c => simp [ElementMentions, perform]
  | record key e =>
    simp [ElementMentions, perform, Elements.mem_toList_record, or_and_right, exists_or]

theorem mem_ids_update {u : Update} {id : String} :
    id ∈ u.ids ↔ id ∈ u.contents.ids ∨ ∃ key e, u = .record key e ∧ id ∈ e.ids := by
  cases u with
  | declare subject name =>
    cases subject <;>
      simp [Update.ids, Subject.ids, Contents.ids, Update.contents, Contents.zero_def, or_comm]
  | connect c => simp [Update.ids, Connection.ids, Contents.ids, Update.contents, Contents.zero_def]
  | record key e =>
    cases e <;> simp [Update.ids, Contents.ids, Update.contents, Contents.zero_def]

theorem mentions_perform {r : Registry} {u : Update} {id : String} :
    (r.perform u).Mentions id ↔ r.Mentions id ∨ id ∈ u.ids := by
  rw [mentions_iff_contents, mentions_iff_contents, contents_perform, Contents.ids_add,
    Set.mem_union, elementMentions_perform, mem_ids_update]
  exact or_or_or_comm

theorem filled_perform {r : Registry} {u : Update} :
    (r.perform u).Filled ↔ r.Filled ∧ ∀ id ∈ u.ids, ¬ Blank id := by
  simp only [Filled, mentions_perform, or_imp, forall_and]

theorem filled_new (created updated : Int) : ({ created, updated } : Registry).Filled := by
  intro id mentioned
  cases mentioned with
  | boundary known => cases known
  | host known => cases known
  | component boundary held host known => cases host
  | threat known => cases known
  | element e recorded about => cases recorded
  | endpoint c connected about => cases connected

section Named

variable {cls : EntryClass} {name : String} {next : String → Registry → Outcome} {goesOn : Prop}
  {r : Registry}

theorem filled_named (note : Registry → Naming → Registry) (subject : String → Subject)
    (kept : ∀ r, note r .identifier = r)
    (noted : ∀ r i, note r (.named i) = r.perform (.declare (subject i) name))
    (later : ¬ Naming.Nameless name → ∀ s : Registry,
      (next (ofText name) s).1.Filled ↔ s.Filled ∧ goesOn) :
    (r.proceed ((Naming.of cls name none).map fun n => (n.id name, note r n)) next).1.Filled ↔
      r.Filled ∧ (¬ Naming.Nameless name →
        (isIdentifier name = false → ∀ id ∈ (subject (ofText name)).ids, ¬ Blank id) ∧ goesOn) := by
  rw [proceed_map]
  by_cases nameless : Naming.Nameless name
  · rw [Naming.of_nameless nameless]
    simp [nameless]
  · cases already : isIdentifier name with
    | true =>
      have here := later nameless r
      rw [show ofText name = name by simp [ofText, already]] at here
      rw [Naming.of_identifier already]
      dsimp only
      rw [kept, Naming.id, here]
      simp [nameless]
    | false =>
      rw [Naming.of_fresh already nameless]
      dsimp only
      rw [noted, Naming.id, later nameless, filled_perform]
      simp [nameless, Update.ids, and_assoc]

theorem filled_addBoundary
    (later : ¬ Naming.Nameless name → ∀ s : Registry,
      (next (ofText name) s).1.Filled ↔ s.Filled ∧ goesOn) :
    (r.proceed (r.addBoundary name none) next).1.Filled ↔
      r.Filled ∧ (¬ Naming.Nameless name →
        (isIdentifier name = false → ¬ Blank (ofText name)) ∧ goesOn) := by
  rw [addBoundary_eq]
  refine (filled_named (fun r => r.noteBoundary name) .boundary (fun _ => rfl)
    (fun _ _ => rfl) later).trans ?_
  simp [Subject.ids]

theorem filled_addComponent {boundary : String}
    (later : ¬ Naming.Nameless name → ∀ s : Registry,
      (next (ofText name) s).1.Filled ↔ s.Filled ∧ goesOn) :
    (r.proceed (r.addComponent boundary name none) next).1.Filled ↔
      r.Filled ∧ (¬ Naming.Nameless name →
        (isIdentifier name = false → ¬ Blank boundary ∧ ¬ Blank (ofText name)) ∧ goesOn) := by
  rw [addComponent_eq]
  refine (filled_named (fun r => r.noteComponent boundary name) (.component boundary) (fun _ => rfl)
    (fun _ _ => rfl) later).trans ?_
  simp [Subject.ids]

theorem filled_addThreat
    (later : ¬ Naming.Nameless name → ∀ s : Registry,
      (next (ofText name) s).1.Filled ↔ s.Filled ∧ goesOn) :
    (r.proceed (r.addThreat name none) next).1.Filled ↔
      r.Filled ∧ (¬ Naming.Nameless name →
        (isIdentifier name = false → ¬ Blank (ofText name)) ∧ goesOn) := by
  rw [addThreat_eq]
  refine (filled_named (fun r => r.noteThreat name) .threat (fun _ => rfl)
    (fun _ _ => rfl) later).trans ?_
  simp [Subject.ids]

end Named

theorem blank_ofText {name : String} (derived : isIdentifier name = false)
    (named : ¬ Naming.Nameless name) : Blank (ofText name) ↔ name = "" := by
  constructor
  · intro blank
    by_contra some'
    exact (proper_of_derived derived some' fun bare => named ⟨derived, bare⟩).not_blank blank
  · intro empty
    subst empty
    exact .inl rfl

theorem filled_addPlace {p : Place} (spelled : p.Spelled) {next : Place → Registry → Outcome}
    {goesOn : Prop} {r : Registry}
    (later : ¬ Naming.Nameless p.boundary → ¬ Naming.Nameless p.component → ∀ s : Registry,
      (next p.identified s).1.Filled ↔ s.Filled ∧ goesOn) :
    (r.addPlace p next).1.Filled ↔
      r.Filled ∧ (¬ Naming.Nameless p.boundary → ¬ Naming.Nameless p.component → goesOn) := by
  have inner : ¬ Naming.Nameless p.boundary → ∀ s : Registry,
      (s.proceed (s.addComponent (ofText p.boundary) p.component none) fun component r =>
        next ⟨ofText p.boundary, component⟩ r).1.Filled ↔
          s.Filled ∧ (¬ Naming.Nameless p.component → goesOn) := by
    intro boundary s
    rw [filled_addComponent (later boundary)]
    refine and_congr_right fun _ => forall_congr' fun component => ?_
    exact and_iff_right fun _ =>
      ⟨(spelled.1.proper boundary).not_blank, (spelled.2.proper component).not_blank⟩
  unfold addPlace
  rw [filled_addBoundary inner]
  refine and_congr_right fun _ => forall_congr' fun boundary => ?_
  exact and_iff_right fun _ => (spelled.1.proper boundary).not_blank

theorem filled_threat {threat : String} (some' : threat ≠ "") {next : String → Registry → Outcome}
    {goesOn : Prop} {r : Registry}
    (later : ¬ Naming.Nameless threat → ∀ s : Registry,
      (next (ofText threat) s).1.Filled ↔ s.Filled ∧ goesOn) :
    (r.proceed (r.addThreat threat none) next).1.Filled ↔
      r.Filled ∧ (¬ Naming.Nameless threat → goesOn) := by
  rw [filled_addThreat later]
  refine and_congr_right fun _ => forall_congr' fun named => ?_
  have full : isIdentifier threat = false → ¬ Blank (ofText threat) := fun derived blank =>
    some' ((blank_ofText derived named).1 blank)
  exact and_iff_right full

theorem blank_threat {threat : String} (some' : threat ≠ "") (named : ¬ Naming.Nameless threat) :
    Blank (ofText threat) ↔ threat = bare := by
  cases already : isIdentifier threat with
  | true =>
    have same : ofText threat = threat := by simp [ofText, already]
    rw [same, Blank, or_iff_right some']
  | false =>
    rw [blank_ofText already named]
    refine iff_of_false some' fun same => ?_
    subst same
    cases already

theorem filled_recordStance {kind : StanceKind} {place : Place} (spelled : place.Spelled)
    (boundary : ¬ Naming.Nameless place.boundary) (component : ¬ Naming.Nameless place.component)
    {threat text : String} {source : Source} {r : Registry} :
    (r.recordStance kind place.identified threat text source).Filled ↔
      r.Filled ∧ ¬ Blank threat := by
  have home := (spelled.1.proper boundary).not_blank
  have spot := (spelled.2.proper component).not_blank
  refine (filled_perform (u := .record _ (.stance kind _))).trans ?_
  simp [Update.ids, Element.ids, Element.boundary, Element.component, Element.threat?,
    Place.identified, home, spot]

theorem filled_recordReview {place : Place} (spelled : place.Spelled)
    (boundary : ¬ Naming.Nameless place.boundary) (component : ¬ Naming.Nameless place.component)
    {text : String} {source : Source} {r : Registry} :
    (r.recordReview place.identified text source).Filled ↔ r.Filled ∧ True := by
  have home := (spelled.1.proper boundary).not_blank
  have spot := (spelled.2.proper component).not_blank
  refine (filled_perform (u := .record _ (.review _))).trans ?_
  simp [Update.ids, Element.ids, Element.boundary, Element.component, Element.threat?,
    Place.identified, home, spot]

theorem fresh_name {name : String} :
    (¬ Naming.Nameless name → isIdentifier name = false → ¬ Blank (ofText name)) ↔ name ≠ "" := by
  constructor
  · intro fresh empty
    subst empty
    exact fresh (by decide) rfl (.inl rfl)
  · intro some' named derived blank
    exact some' ((blank_ofText derived named).1 blank)

end Registry

/-- The statement brings in a blank identifier. -/
def Statement.Hollow (s : Statement) : Prop :=
  match s with
  | naming subject name => isIdentifier name = false ∧ ∃ id ∈ subject.ids, Blank id
  | connecting origin target _ _ => ∃ id ∈ origin.identified.ids ++ target.identified.ids, Blank id
  | standing _ _ threat _ => threat = bare ∧ s.nameless? = none
  | describing _ _ | reviewing _ _ => False

def Operation.Hollow : Operation → Prop
  | apply tag => ∃ s, Statement.ofText? tag.kind tag.text = some s ∧ s.Hollow
  | addBoundary name | addThreat name => name = ""
  | addComponent boundary name =>
    name = "" ∨ isIdentifier name = false ∧ ¬ Naming.Nameless name ∧ Blank boundary

namespace Registry

theorem filled_standing {r : Registry} {kind : StanceKind} {place : Place} {threat text : String}
    {source : Source} (spelled : place.Spelled) (some' : threat ≠ "") :
    (r.state source (.standing kind place threat text)).1.Filled ↔
      r.Filled ∧ ¬ (Statement.standing kind place threat text).Hollow := by
  have hollow : ¬ (Statement.standing kind place threat text).Hollow ↔
      (¬ Naming.Nameless place.boundary → ¬ Naming.Nameless place.component →
        ¬ Naming.Nameless threat → ¬ Blank (ofText threat)) := by
    rw [Statement.Hollow, Statement.nameless?_standing]
    constructor
    · intro solid boundary component named blank
      exact solid ⟨(blank_threat some' named).1 blank, boundary, component, named⟩
    · intro solid blank
      obtain ⟨same, boundary, component, named⟩ := blank
      exact solid boundary component named ((blank_threat some' named).2 same)
  rw [hollow]
  -- The kinds differ in what they register first, and stop at the first name without identifier.
  cases first : placeComesFirst kind with
  | true =>
    simp only [state, first, if_true]
    refine filled_addPlace spelled fun boundary component s => ?_
    exact filled_threat some' fun _ t => filled_recordStance spelled boundary component
  | false =>
    simp only [state, first, Bool.false_eq_true, if_false]
    have placed : ¬ Naming.Nameless threat → ∀ s : Registry,
        (s.addPlace place fun place r =>
          (r.recordStance kind place (ofText threat) text source, none)).1.Filled ↔
        s.Filled ∧ (¬ Naming.Nameless place.boundary → ¬ Naming.Nameless place.component →
          ¬ Blank (ofText threat)) := by
      intro _ s
      exact filled_addPlace spelled fun boundary component t =>
        filled_recordStance spelled boundary component
    rw [filled_threat some' placed]
    refine and_congr_right fun _ => ?_
    constructor
    · intro h boundary component named
      exact h named boundary component
    · intro h named boundary component
      exact h boundary component named

theorem filled_describeSubject {r : Registry} {text : String} {source : Source} {subject : Subject} :
    (r.describeSubject text source subject).1.Filled ↔ r.Filled := by
  simp only [Filled, mentions_iff_contents, ElementMentions, contents_describeSubject,
    (kept_describeSubject r text source subject).1]

theorem filled_state {r : Registry} {s : Statement} {source : Source} (spelled : s.Spelled)
    (full : ∀ kind place threat text, s = .standing kind place threat text → threat ≠ "") :
    (r.state source s).1.Filled ↔ r.Filled ∧ ¬ s.Hollow := by
  cases s with
  | naming subject name =>
    simp only [state, nameSubject_eq]
    cases already : isIdentifier name with
    | true => simp [Statement.Hollow, already]
    | false => simp [Statement.Hollow, already, filled_perform, Update.ids]
  | describing subject text => simp [state, filled_describeSubject, Statement.Hollow]
  | connecting origin target direction label =>
    refine (filled_perform (u := .connect (.between origin target _))).trans ?_
    simp [Statement.Hollow, Update.ids, Connection.ids, Connection.between]
  | reviewing place text =>
    have about : place.Spelled := spelled place (List.mem_singleton_self place)
    refine (filled_addPlace about fun boundary component t =>
      filled_recordReview about boundary component).trans ?_
    simp [Statement.Hollow]
  | standing kind place threat text =>
    exact filled_standing (spelled place (List.mem_singleton_self place)) (full _ _ _ _ rfl)

variable {style : CommentStyle}

theorem filled_operate {r : Registry} {op : Operation}
    (found : ∀ tag, op = .apply tag → tag.Found style) :
    (r.operate op).Filled ↔ r.Filled ∧ ¬ op.Hollow := by
  have ends : ∀ s : Registry, s.Filled ↔ s.Filled ∧ True := fun s => (and_iff_left trivial).symm
  cases op with
  | apply tag =>
    simp only [operate, apply, Operation.Hollow]
    cases read : Statement.ofText? tag.kind tag.text with
    | none => simp
    | some s =>
      have full : ∀ kind place threat text, s = .standing kind place threat text → threat ≠ "" := by
        intro kind place threat text same
        subst same
        exact Statement.threat_of_found (found tag rfl) read
      simpa using filled_state (Statement.spelled_of_read read) full
  | addBoundary name =>
    refine (filled_addBoundary fun _ => ends).trans (and_congr_right fun _ => ?_)
    simp only [and_true, fresh_name, Operation.Hollow, ne_eq]
  | addThreat name =>
    refine (filled_addThreat fun _ => ends).trans (and_congr_right fun _ => ?_)
    simp only [and_true, fresh_name, Operation.Hollow, ne_eq]
  | addComponent boundary name =>
    refine (filled_addComponent fun _ => ends).trans (and_congr_right fun _ => ?_)
    simp only [and_true, imp_and, fresh_name, Operation.Hollow, not_or]
    rw [and_comm]
    refine and_congr_right fun _ => ?_
    constructor
    · intro home hollow
      obtain ⟨derived, named, blank⟩ := hollow
      exact home named derived blank
    · intro home named derived blank
      exact home ⟨derived, named, blank⟩

/-- A registry that is built from nothing has no blank identifier anywhere, but through a hollow
operation. -/
theorem filled_run (created updated : Int) {ops : List Operation}
    (found : ∀ tag, .apply tag ∈ ops → tag.Found style) :
    (∀ id, (ops.foldl operate { created, updated }).Mentions id → ¬ Blank id) ↔
      ∀ op ∈ ops, ¬ op.Hollow := by
  -- Induction on the operations, from any registry: each of them adds to what is there.
  suffices run : ∀ r : Registry, (ops.foldl operate r).Filled ↔
      r.Filled ∧ ∀ op ∈ ops, ¬ op.Hollow by
    exact (run _).trans (and_iff_right (filled_new created updated))
  induction ops with
  | nil => simp
  | cons op ops ih =>
    intro r
    have first : ∀ tag, op = .apply tag → tag.Found style :=
      fun tag same => found tag (same ▸ List.mem_cons_self)
    rw [List.foldl_cons, ih fun tag later => found tag (List.mem_cons_of_mem _ later),
      filled_operate first, List.forall_mem_cons, and_assoc]

def page : Tag where
  kind := .connects
  text := "@connects User:Browser to @web:@app as page"
  source := { line := 1 }

def pageOperations : List Operation :=
  [.addBoundary "Web", .addComponent "@web" "App", .addThreat "Theft", .apply page]

theorem filled_pageOperations :
    (∀ tag, .apply tag ∈ pageOperations → tag.Found .usual) ∧
      ∀ id, (pageOperations.foldl operate { created := 1, updated := 2 }).Mentions id →
        ¬ Blank id := by
  have found : ∀ tag, .apply tag ∈ pageOperations → tag.Found .usual := by
    intro tag member
    have same : tag = page := by simpa [pageOperations] using member
    subst same
    rw [CommentStyle.usual_eq]
    exact ⟨"// @connects User:Browser to @web:@app as page".toList, { line := 1 }, by decide +kernel⟩
  refine ⟨found, (filled_run 1 2 found).2 ?_⟩
  have connects : Statement.ofText? page.kind page.text =
      some (.connecting ⟨"User", "Browser"⟩ ⟨"@web", "@app"⟩ .oneWay (some "page")) := by
    decide +kernel
  intro op member
  simp only [pageOperations, List.mem_cons, List.not_mem_nil, or_false] at member
  rcases member with rfl | rfl | rfl | rfl
  · exact show "Web" ≠ "" by decide
  · rintro (empty | ⟨_, _, blank | blank⟩)
    · exact absurd empty (by decide)
    · exact absurd blank (by decide)
    · exact absurd blank (by decide)
  · exact show "Theft" ≠ "" by decide
  · rintro ⟨s, read, hollow⟩
    rw [connects] at read
    obtain rfl := Option.some.inj read
    obtain ⟨id, member, blank⟩ := hollow
    revert member
    rcases blank with rfl | rfl <;> decide +kernel

def zoneOperations : List Operation :=
  [.apply ⟨.aliases, "@alias boundary @_ to First zone", { line := 1 }⟩,
   .apply ⟨.aliases, "@alias boundary @__ to Second zone", { line := 2 }⟩,
   .apply ⟨.connects, "@connects _:. to @web:@app", { line := 3 }⟩,
   .addThreat ""]

/-- An alias without letters or digits is registered as `@`, and a second one is lost there. -/
theorem mentions_zoneOperations :
    (∀ tag, .apply tag ∈ zoneOperations → tag.Found .usual) ∧
      (zoneOperations.foldl operate {}).boundaries.get? bare = some { name := "First zone" } ∧
      (zoneOperations.foldl operate {}).Mentions bare ∧
      (zoneOperations.foldl operate {}).Mentions "" ∧
      (zoneOperations.foldl operate {}).dataflow.connections.map Connection.ids =
        [[bare, bare, "@web", "@app"]] := by
  refine ⟨?_, ?_, .boundary ?_, .threat ?_, ?_⟩
  · intro tag member
    simp only [zoneOperations, List.mem_cons, Operation.apply.injEq, reduceCtorEq,
      List.not_mem_nil, or_false] at member
    rw [CommentStyle.usual_eq]
    rcases member with rfl | rfl | rfl
    · exact ⟨"// @alias boundary @_ to First zone".toList, { line := 1 }, by decide +kernel⟩
    · exact ⟨"// @alias boundary @__ to Second zone".toList, { line := 2 }, by decide +kernel⟩
    · exact ⟨"// @connects _:. to @web:@app".toList, { line := 3 }, by decide +kernel⟩
  · decide +kernel
  · decide +kernel
  · decide +kernel
  · decide +kernel

end Registry

end ThreatModel
