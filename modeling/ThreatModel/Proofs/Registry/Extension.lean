import ThreatModel.Proofs.Registry.Registrations

namespace ThreatModel

/-- What is asked of a registry, with identifiers that are given or left to be derived. -/
inductive Request where
  | addBoundary (name : String) (id : Option String)
  | addComponent (boundary name : String) (id : Option String)
  | addThreat (name : String) (id : Option String)
  | apply (tag : Tag)
  | applyAll (tags : List Tag)
  | importEntries (d : Document)

namespace Request

def tags : Request → List Tag
  | apply tag => [tag]
  | applyAll tags => tags
  | addBoundary _ _ | addComponent _ _ _ | addThreat _ _ | importEntries _ => []

def Describes (request : Request) (t : Subject) : Prop :=
  ∃ tag ∈ request.tags, (tag.description? t).isSome = true

end Request

namespace Registry

def handle (r : Registry) : Request → Registry
  | .addBoundary name id => (r.proceed (r.addBoundary name id) fun _ r => (r, none)).1
  | .addComponent boundary name id =>
    (r.proceed (r.addComponent boundary name id) fun _ r => (r, none)).1
  | .addThreat name id => (r.proceed (r.addThreat name id) fun _ r => (r, none)).1
  | .apply tag => (r.apply tag).1
  | .applyAll tags => (r.applyAll tags).1
  | .importEntries d => r.importEntries d

/-- The second registry has all of the first as it was there. The descriptions of some subjects may
differ. -/
structure Extends (described : Subject → Prop) (r s : Registry) : Prop where
  entries : ∀ t e, r.held? t = some e → ∃ text,
    s.held? t = some { e with description := text } ∧ (¬ described t → text = e.description)
  lists : ∀ kind key es, r.elements.listed kind key = some es → ∃ fs,
    s.elements.listed kind key = some fs ∧ es <+: fs
  edges : ∀ origin target edge, r.dataflow.edge? origin target = some edge →
    s.dataflow.edge? origin target = some edge
  created : s.created = r.created
  updated : s.updated = r.updated

namespace Extends

variable {described : Subject → Prop} {r s t : Registry}

theorem refl (described : Subject → Prop) (r : Registry) : Extends described r r where
  entries _ e held := ⟨e.description, held, fun _ => rfl⟩
  lists _ _ es listed := ⟨es, listed, List.prefix_refl es⟩
  edges _ _ _ held := held
  created := rfl
  updated := rfl

theorem trans (first : Extends described r s) (second : Extends described s t) :
    Extends described r t where
  entries subject e held := by
    obtain ⟨text, held', same⟩ := first.entries subject e held
    obtain ⟨text', held'', same'⟩ := second.entries subject _ held'
    exact ⟨text', held'', fun kept => (same' kept).trans (same kept)⟩
  lists kind key es listed := by
    obtain ⟨fs, listed', begins⟩ := first.lists kind key es listed
    obtain ⟨gs, listed'', begins'⟩ := second.lists kind key fs listed'
    exact ⟨gs, listed'', begins.trans begins'⟩
  edges origin target edge held :=
    second.edges origin target edge (first.edges origin target edge held)
  created := second.created.trans first.created
  updated := second.updated.trans first.updated

theorem mono {more : Subject → Prop} (h : ∀ t, described t → more t)
    (ext : Extends described r s) : Extends more r s :=
  { ext with
    entries := fun subject e held => by
      obtain ⟨text, held', same⟩ := ext.entries subject e held
      exact ⟨text, held', fun kept => same fun other => kept (h subject other)⟩ }

end Extends

theorem keeps_of_or {r s : Registry} {t : Subject} {new? : Option Entry}
    (filled : s.held? t = (r.held? t).or new?) {e : Entry} (held : r.held? t = some e) :
    s.held? t = some e := by
  rw [filled, held]
  rfl

theorem extends_perform (described : Subject → Prop) (r : Registry) (u : Update) :
    Extends described r (r.perform u) where
  entries t e held := ⟨e.description, keeps_of_or (held?_perform r u t) held, fun _ => rfl⟩
  lists kind key es listed := by
    cases u with
    | connect c => exact ⟨es, listed, List.prefix_refl es⟩
    | declare subject name =>
      refine ⟨es, ?_, List.prefix_refl es⟩
      cases subject <;> exact listed
    | record i e =>
      show ∃ fs, (r.elements.record i e).listed kind key = some fs ∧ es <+: fs
      rw [Elements.listed_record, listed]
      split
      · exact ⟨es ++ [e], rfl, List.prefix_append es [e]⟩
      · exact ⟨es, rfl, List.prefix_refl es⟩
  edges origin target edge held := by
    cases u with
    | record key e => exact held
    | declare subject name => cases subject <;> exact held
    | connect c =>
      show (r.dataflow.add c).edge? origin target = some edge
      rw [Dataflow.edge?_add, held]
      split <;> rfl
  created := (times_perform r u).1
  updated := (times_perform r u).2

theorem extends_foldl_perform (described : Subject → Prop) (updates : List Update) (r : Registry) :
    Extends described r (updates.foldl perform r) := by
  induction updates generalizing r with
  | nil => exact .refl described r
  | cons u updates ih => exact (extends_perform described r u).trans (ih (r.perform u))

theorem Planned.extends {step : Registry → Outcome} (h : Planned step)
    (described : Subject → Prop) (r : Registry) : Extends described r (step r).1 := by
  obtain ⟨updates, error?, done⟩ := h
  rw [done r]
  exact extends_foldl_perform described updates r

theorem dataflow_describeSubject (r : Registry) (text : String) (source : Source)
    (subject : Subject) :
    (r.describeSubject text source subject).1.dataflow = r.dataflow := by
  cases subject with
  | boundary id | threat id =>
    simp only [describeSubject]
    split <;> rfl
  | component b id =>
    simp only [describeSubject]
    split
    · rfl
    · split <;> rfl

theorem extends_describeSubject (r : Registry) (text : String) (source : Source)
    (subject : Subject) :
    Extends (· = subject) r (r.describeSubject text source subject).1 := by
  obtain ⟨elements, created, updated⟩ := kept_describeSubject r text source subject
  refine ⟨?_, ?_, ?_, created, updated⟩
  · intro t e held
    rw [held?_describeSubject, held]
    by_cases here : t = subject
    · rw [if_pos here]
      exact ⟨text, rfl, fun other => absurd here other⟩
    · rw [if_neg here]
      exact ⟨e.description, rfl, fun _ => rfl⟩
  · intro kind key es listed
    rw [elements]
    exact ⟨es, listed, List.prefix_refl es⟩
  · intro origin target edge held
    rw [dataflow_describeSubject]
    exact held

theorem extends_apply (r : Registry) (tag : Tag) :
    Extends (fun t => (tag.description? t).isSome = true) r (r.apply tag).1 := by
  by_cases describes : tag.kind = .describes
  · unfold apply Tag.description?
    cases read : Statement.ofText? tag.kind tag.text with
    | none => exact .refl _ r
    | some s =>
      have kind := Statement.kind_of_ofText? read
      rw [describes] at kind
      obtain ⟨subject, text, rfl⟩ := Statement.eq_describing kind
      refine (extends_describeSubject r text tag.source subject).mono fun t here => ?_
      rw [Option.bind_some, Statement.description?, if_pos here]
      rfl
  · exact (planned_apply tag describes).extends _ r

theorem extends_applyEach (r : Registry) (tags : List Tag) :
    Extends (fun t => ∃ tag ∈ tags, (tag.description? t).isSome = true) r (r.applyEach tags).1 := by
  induction tags generalizing r with
  | nil => exact .refl _ r
  | cons tag tags ih =>
    refine ((extends_apply r tag).mono ?_).trans ((ih (r.apply tag).1).mono ?_)
    · intro t here
      exact ⟨tag, List.mem_cons_self, here⟩
    · intro t later
      obtain ⟨other, member, here⟩ := later
      exact ⟨other, List.mem_cons_of_mem _ member, here⟩

theorem held?_importEntries (r : Registry) (d : Document) (t : Subject) :
    (r.importEntries d).held? t = (r.held? t).or ((({} : Registry).importEntries d).held? t) := by
  cases t with
  | boundary id | threat id => simp [held?, importEntries, SortedMap.get?_union]
  | component b id =>
    simp only [held?, importEntries, SortedMap.get?_mergeWith]
    cases r.components.get? b <;> cases d.components.get? b <;> simp [SortedMap.get?_union]

theorem extends_importEntries (described : Subject → Prop) (r : Registry) (d : Document) :
    Extends described r (r.importEntries d) :=
  { Extends.refl described r with
    entries := fun t e held =>
      ⟨e.description, keeps_of_or (held?_importEntries r d t) held, fun _ => rfl⟩ }

theorem extends_handle (r : Registry) (request : Request) :
    Extends request.Describes r (r.handle request) := by
  cases request with
  | addBoundary name id =>
    exact (Planned.addBoundary name id fun _ => .stop none).extends _ r
  | addComponent boundary name id =>
    exact (Planned.addComponent boundary name id fun _ => .stop none).extends _ r
  | addThreat name id =>
    exact (Planned.addThreat name id fun _ => .stop none).extends _ r
  | apply tag =>
    refine (extends_apply r tag).mono fun t here => ?_
    exact ⟨tag, List.mem_singleton_self tag, here⟩
  | applyAll tags =>
    refine (extends_applyEach r (inRankOrder tags)).mono fun t here => ?_
    obtain ⟨tag, member, here⟩ := here
    exact ⟨tag, mem_inRankOrder.1 member, here⟩
  | importEntries d => exact extends_importEntries _ r d

/-- Every request extends the registry, and so does every stretch of a run. -/
theorem extends_run (r : Registry) :
    (∀ request : Request, Extends request.Describes r (r.handle request)) ∧
      ∀ early late : List Request,
        Extends (fun t => ∃ request ∈ late, request.Describes t) (early.foldl handle r)
          ((early ++ late).foldl handle r) := by
  refine ⟨extends_handle r, fun early late => ?_⟩
  rw [List.foldl_append]
  -- Induction on the later requests, from whatever state the earlier ones leave.
  generalize early.foldl handle r = s
  induction late generalizing s with
  | nil => exact .refl _ s
  | cons request late ih =>
    refine ((extends_handle s request).mono ?_).trans ((ih (s.handle request)).mono ?_)
    · intro t here
      exact ⟨request, List.mem_cons_self, here⟩
    · intro t later
      obtain ⟨other, member, here⟩ := later
      exact ⟨other, List.mem_cons_of_mem _ member, here⟩

def website : Entry := { name := "Web shop", references := ["#4"], parent := some "@internet" }

def websiteRequests : List Request :=
  [.addBoundary "@shop" (some "@web"), .addBoundary "Portal" (some "@web"),
   .applyAll
    [⟨.describes, "@describe boundary @web as what customers see", { line := 1 }⟩,
     ⟨.reviews, "@review Web:App is this public?", { line := 2 }⟩,
     ⟨.describes, "@describe threat @xss as unknown here", { line := 3 }⟩]]

theorem extends_websiteRequests :
    ∃ text, (websiteRequests.foldl handle { boundaries := .insert ∅ "@web" website }).held?
      (.boundary "@web") = some { website with description := text } := by
  have kept := (extends_run { boundaries := .insert ∅ "@web" website }).2 [] websiteRequests
  obtain ⟨text, held, _⟩ := kept.entries (.boundary "@web") website (by decide)
  exact ⟨text, held⟩

end Registry

end ThreatModel
