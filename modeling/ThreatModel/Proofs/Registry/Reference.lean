import ThreatModel.Document.References
import ThreatModel.Proofs.Identifier
import ThreatModel.Proofs.Registry.Batch
import ThreatModel.Proofs.Registry.Recorded
import ThreatModel.Proofs.Tag.Subject
import ThreatModel.Registry.Exchange

namespace ThreatModel

open Text

/-- The target of a tag that names or describes an entry, in one-space form. -/
def Tag.Addresses (tag : Tag) (joint : String) (cls : EntryClass) (id : List Char)
    (part : Option (List Char)) (text : String) : Prop :=
  respace tag.text.toList = tag.text.toList ∧
    Statement.Addresses tag.kind joint (words tag.text.toList) cls id part text

instance (tag : Tag) (joint : String) (cls : EntryClass) (id : List Char)
    (part : Option (List Char)) (text : String) :
    Decidable (tag.Addresses joint cls id part text) :=
  inferInstanceAs (Decidable (_ ∧ _))

namespace Subject

/-- What a target points to when its identifiers are kept as they are spelled. -/
def spelled? (cls : EntryClass) (id : List Char) (part : Option (List Char)) : Option Subject :=
  match cls with
  | .boundary => some (.boundary (Identifier.signed id))
  | .threat => some (.threat (Identifier.signed id))
  | .component => part.map fun cs => .component (Identifier.signed id) (Identifier.signed cs)

end Subject

theorem Statement.subject?_of_isDerived {w id : List Char} {part : Option (List Char)}
    (targets : Targets w id part) (derived : Identifier.IsDerived id)
    (derived' : ∀ cs ∈ part, Identifier.IsDerived cs) (cls : EntryClass) :
    subject? cls id part = Subject.spelled? cls id part := by
  obtain ⟨⟨some', word⟩, path, _⟩ := targets
  have one : spaced id = .ofList id :=
    spaced_of_isWord ⟨some', fun c inside => isBlank_of_isWordChar (word c inside)⟩
  have first := Identifier.ofText_of_isDerived derived some'
  cases part with
  | none => cases cls <;> simp [subject?, Subject.spelled?, one, first]
  | some cs =>
    have second := Identifier.ofText_of_isDerived (derived' cs rfl) (path cs rfl).1
    cases cls <;> simp [subject?, Subject.spelled?, one, first, second]

namespace Contents

def Declares (c : Contents) : Subject → Prop
  | .boundary id => id ∈ c.boundaries
  | .component b id => ⟨b, id⟩ ∈ c.places
  | .threat id => id ∈ c.threats

theorem Declares.add {c : Contents} {subject : Subject} (declared : c.Declares subject)
    (d : Contents) : (c + d).Declares subject := by
  cases subject <;> exact Or.inl declared

end Contents

namespace Registry

def held? (r : Registry) : Subject → Option Entry
  | .boundary id => r.boundaries.get? id
  | .component b id => (r.components.get? b).bind (·.get? id)
  | .threat id => r.threats.get? id

theorem declares_iff {r : Registry} {subject : Subject} :
    r.contents.Declares subject ↔ (r.held? subject).isSome := by
  cases subject with
  | boundary id => rfl
  | threat id => rfl
  | component b id =>
    simp only [Contents.Declares, contents, held?, Set.mem_ofPred_eq]
    cases r.components.get? b <;> simp [SortedMap.contains]

theorem contents_applyAll_of_mem (r : Registry) {tags : List Tag} {tag : Tag}
    (member : tag ∈ tags) : ∃ rest, (r.applyAll tags).1.contents = contribution tag + rest := by
  classical
  have ordered : tag ∈ inRankOrder tags := (List.mergeSort_perm tags _).mem_iff.2 member
  have total := contents_applyEach r (inRankOrder tags)
  rw [← List.sum_map_erase contribution ordered, add_left_comm] at total
  exact ⟨_, total⟩

theorem declares_nameSubject {r : Registry} {name : String} {subject : Subject}
    (done : (r.nameSubject name subject).2 = none) :
    (r.nameSubject name subject).1.contents.Declares subject := by
  rw [nameSubject_eq] at done ⊢
  split at done
  · cases done
  · rename_i spoken
    rw [if_neg spoken, contents_perform]
    cases subject <;> exact Or.inr rfl

/-- One of the tags names what the target points to, and is applied without an error. -/
def Aliased (r : Registry) (tags : List Tag) (cls : EntryClass) (id : List Char)
    (part : Option (List Char)) : Prop :=
  ∃ tag ∈ tags, ∃ name, tag.kind = .aliases ∧ tag.Addresses "to" cls id part name ∧
    (r.apply tag).2 = none

theorem declares_of_aliased {r : Registry} {tags : List Tag} {cls : EntryClass} {id : List Char}
    {part : Option (List Char)} {subject : Subject} (aliased : r.Aliased tags cls id part)
    (derived : Identifier.IsDerived id) (derived' : ∀ cs ∈ part, Identifier.IsDerived cs)
    (points : Subject.spelled? cls id part = some subject) :
    (r.applyAll tags).1.contents.Declares subject := by
  obtain ⟨tag, member, name, kind, ⟨normal, words⟩, done⟩ := aliased
  obtain ⟨w, _, targets⟩ := words.2.2.1
  rw [← Statement.subject?_of_isDerived targets derived derived'] at points
  rw [kind] at words
  have read := Statement.ofText?_aliases normal words points
  rw [← kind] at read
  have applied (s : Registry) : s.apply tag = s.nameSubject name subject := by
    rw [apply, read]
    rfl
  rw [error_apply r (by rw [kind]; decide), applied] at done
  obtain ⟨rest, total⟩ := contents_applyAll_of_mem r member
  rw [total, contribution, applied]
  exact (declares_nameSubject done).add rest

theorem apply_describes {r : Registry} {tag : Tag} {cls : EntryClass} {id : List Char}
    {part : Option (List Char)} {text : String} {subject : Subject} {e : Entry}
    (kind : tag.kind = .describes) (addresses : tag.Addresses "as" cls id part text)
    (derived : Identifier.IsDerived id) (derived' : ∀ cs ∈ part, Identifier.IsDerived cs)
    (points : Subject.spelled? cls id part = some subject) (held : r.held? subject = some e) :
    (r.apply tag).2 = none ∧
      (r.apply tag).1.held? subject = some { e with description := text } := by
  obtain ⟨normal, words⟩ := addresses
  obtain ⟨w, _, targets⟩ := words.2.2.1
  rw [← Statement.subject?_of_isDerived targets derived derived'] at points
  rw [kind] at words
  have read := Statement.ofText?_describes normal words points
  rw [← kind] at read
  have applied : r.apply tag = r.describeSubject text tag.source subject := by
    rw [apply, read]
    rfl
  rw [applied]
  cases subject with
  | boundary id =>
    have found : r.boundaries.get? id = some e := held
    simp [describeSubject, describeIn, found, held?]
  | threat id =>
    have found : r.threats.get? id = some e := held
    simp [describeSubject, describeIn, found, held?]
  | component b id =>
    obtain ⟨inner, host, found⟩ := Option.bind_eq_some_iff.1 held
    simp [describeSubject, describeIn, host, found, held?]

section Issues

variable {r : Registry} {project : String}

theorem placeIssues_of_declares {place : Place}
    (boundary : r.contents.Declares (.boundary place.boundary))
    (component : r.contents.Declares (.component place.boundary place.component))
    (context location : String) :
    (r.toDocument project).placeIssues context place location = [] := by
  rw [declares_iff] at boundary component
  have known : (r.toDocument project).boundaries.contains place.boundary = true := boundary
  have known' : ((r.toDocument project).component? place.boundary place.component).isSome = true :=
    component
  rw [Document.placeIssues, if_pos known, if_pos known', List.append_nil]

theorem elementThreatIssues_of_declares {e : Element}
    (declared : ∀ threat ∈ e.threat?, r.contents.Declares (.threat threat)) :
    (r.toDocument project).elementThreatIssues project e = [] := by
  unfold Document.elementThreatIssues
  cases about : e.threat? with
  | none => rfl
  | some threat =>
    have known := declared threat about
    rw [declares_iff] at known
    exact if_pos known

end Issues

theorem mem_elements_of_recorded {r : Registry} {tags : List Tag} {tag : Tag} {s : Statement}
    {e : Element} (member : tag ∈ tags) (read : Statement.ofText? tag.kind tag.text = some s)
    (recorded : s.element? tag.source = some e) (named : s.nameless? = none) :
    e ∈ (r.applyAll tags).1.elements.toList := by
  have ordered : tag ∈ inRankOrder tags := (List.mergeSort_perm tags _).mem_iff.2 member
  have adds : tag.element? = some e := Tag.element?_eq_some.2 ⟨s, read, named, recorded⟩
  exact mem_elements_applyEach.2 (.inr ⟨tag, ordered, adds⟩)

theorem edge?_of_connecting {r : Registry} {tags : List Tag} {tag : Tag} {origin target : Place}
    {direction : Direction} {label : Option String} (member : tag ∈ tags)
    (read : Statement.ofText? tag.kind tag.text =
      some (.connecting origin target direction label)) :
    ((r.applyAll tags).1.dataflow.edge? origin.identified target.identified).isSome = true := by
  obtain ⟨rest, total⟩ := contents_applyAll_of_mem r member
  have linked : (origin.identified, target.identified) ∈ (contribution tag).links := by
    have applied : (({} : Registry).apply tag).1 = ({} : Registry).perform
        (.connect (.between origin target ⟨direction, label, tag.source⟩)) := by
      rw [apply, read]
      rfl
    rw [contribution, applied, contents_perform]
    exact .inr rfl
  have within : (origin.identified, target.identified) ∈ (r.applyAll tags).1.contents.links := by
    rw [total]
    exact .inl linked
  exact within

theorem nameless?_of_element {s : Statement} {source : Source} {e : Element}
    (recorded : s.element? source = some e) (boundary : e.boundary ≠ Identifier.bare)
    (component : e.component ≠ Identifier.bare)
    (threat : ∀ threat ∈ e.threat?, threat ≠ Identifier.bare) : s.nameless? = none := by
  have named {name : String} (derived : Identifier.ofText name ≠ Identifier.bare) :
      ¬ Naming.Nameless name := fun nameless => derived nameless.2
  cases s with
  | naming | describing | connecting => cases recorded
  | reviewing place text =>
    obtain rfl := Option.some.inj recorded
    exact Statement.nameless?_reviewing.2 ⟨named boundary, named component⟩
  | standing kind place spelt text =>
    obtain rfl := Option.some.inj recorded
    exact Statement.nameless?_standing.2
      ⟨named boundary, named component, named (threat _ rfl)⟩

/-- What is named after an `@` is found by that spelling if it is derived already. -/
theorem references_of_aliases (project : String) :
    (∀ (r : Registry) (tags : List Tag) (w c : List Char),
      Identifier.IsDerived w → Identifier.IsDerived c →
      r.Aliased tags .boundary w none → r.Aliased tags .component w (some c) →
      r.Aliased tags .threat w none →
      ∀ tag ∈ tags, ∀ s, Statement.ofText? tag.kind tag.text = some s →
        (∀ e, s.element? tag.source = some e →
          e.boundary = Identifier.signed w → e.component = Identifier.signed c →
          (∀ threat ∈ e.threat?, threat = Identifier.signed w) →
          (r.apply tag).2 = none ∧ e ∈ (r.applyAll tags).1.elements.toList ∧
          ((r.applyAll tags).1.toDocument project).elementPlaceIssues project e = [] ∧
          ((r.applyAll tags).1.toDocument project).elementThreatIssues project e = []) ∧
        ∀ origin target direction label, s = .connecting origin target direction label →
          (((r.applyAll tags).1.toDocument project).dataflow.edge? origin.identified
            target.identified).isSome = true ∧
          ∀ p ∈ [origin, target],
            p.identified = ⟨Identifier.signed w, Identifier.signed c⟩ → ∀ location,
            ((r.applyAll tags).1.toDocument project).placeIssues "dfd" p.identified location = []) ∧
    ∀ (r : Registry) (tag : Tag) (cls : EntryClass) (id : List Char) (part : Option (List Char))
      (text : String) (subject : Subject) (e : Entry),
      tag.kind = .describes → tag.Addresses "as" cls id part text →
      Identifier.IsDerived id → (∀ cs ∈ part, Identifier.IsDerived cs) →
      Subject.spelled? cls id part = some subject → r.held? subject = some e →
      (r.apply tag).2 = none ∧
        (r.apply tag).1.held? subject = some { e with description := text } := by
  constructor
  · intro r tags w c derived derived' boundary component threat tag member s read
    have part : ∀ cs ∈ some c, Identifier.IsDerived cs := by simpa using derived'
    have alone : ∀ cs ∈ (none : Option (List Char)), Identifier.IsDerived cs := by simp
    have boundary' := declares_of_aliased boundary derived alone rfl
    have component' := declares_of_aliased component derived part rfl
    have threat' := declares_of_aliased threat derived alone rfl
    obtain ⟨_, _, _, _, ⟨_, words⟩, _⟩ := component
    obtain ⟨_, _, ⟨nonempty, _⟩, nonempty', _⟩ := words.2.2.1
    constructor
    · intro e recorded home spot about
      have named : s.nameless? = none := by
        refine nameless?_of_element recorded ?_ ?_ fun t known => ?_
        · rw [home]
          exact Identifier.signed_ne_bare nonempty
        · rw [spot]
          exact Identifier.signed_ne_bare (nonempty' c rfl).1
        · rw [about t known]
          exact Identifier.signed_ne_bare nonempty
      have settled := apply_of_worded r read recorded
      rw [Settled, show s.names.find? _ = _ from named] at settled
      refine ⟨settled.1, mem_elements_of_recorded member read recorded named, ?_, ?_⟩
      · rw [Document.elementPlaceIssues, home, spot]
        exact placeIssues_of_declares boundary' component' _ _
      · refine elementThreatIssues_of_declares fun t known => ?_
        rw [about t known]
        exact threat'
    · intro origin target direction label same
      subst same
      refine ⟨edge?_of_connecting member read, ?_⟩
      intro p _ here location
      rw [here]
      exact placeIssues_of_declares boundary' component' _ _
  · intro r tag cls id part text subject e kind addresses derived derived' points held
    exact apply_describes kind addresses derived derived' points held

def webShop : List Tag :=
  [⟨.aliases, "@alias boundary @web to Web shop", { line := 1 }⟩,
   ⟨.aliases, "@alias component @web:@app to Checkout", { line := 2 }⟩,
   ⟨.aliases, "@alias threat @web to Stolen session", { line := 3 }⟩,
   ⟨.exposes, "@exposes @web:@app to @web with long sessions", { line := 4 }⟩,
   ⟨.connects, "@connects @web:@app to @user:@browser as page", { line := 5 }⟩]

def longSessions : Element :=
  .stance .exposure {
    boundary := "@web", component := "@app", threat := "@web", text := "long sessions",
    source := { line := 4 } }

def stolenSession : Entry := { name := "Stolen session" }

def explanation : Tag where
  kind := .describes
  text := "@describe threat @web as a cookie is taken"
  source := { line := 6 }

theorem references_webShop :
    Identifier.IsDerived ['w', 'e', 'b'] ∧ Identifier.IsDerived ['a', 'p', 'p'] ∧
    ({} : Registry).Aliased webShop .boundary ['w', 'e', 'b'] none ∧
    ({} : Registry).Aliased webShop .component ['w', 'e', 'b'] (some ['a', 'p', 'p']) ∧
    ({} : Registry).Aliased webShop .threat ['w', 'e', 'b'] none ∧
    longSessions ∈ (({} : Registry).applyAll webShop).1.elements.toList ∧
    ((({} : Registry).applyAll webShop).1.toDocument "shop").elementPlaceIssues "shop"
      longSessions = [] ∧
    ((({} : Registry).applyAll webShop).1.toDocument "shop").elementThreatIssues "shop"
      longSessions = [] ∧
    ((({} : Registry).applyAll webShop).1.toDocument "shop").placeIssues "dfd" ⟨"@web", "@app"⟩
      "@5" = [] ∧
    (({ threats := .insert ∅ "@web" stolenSession } : Registry).apply explanation).1.held?
      (.threat "@web") = some { stolenSession with description := "a cookie is taken" } := by
  have web : Identifier.IsDerived ['w', 'e', 'b'] := by decide +kernel
  have app : Identifier.IsDerived ['a', 'p', 'p'] := by decide +kernel
  have boundary : ({} : Registry).Aliased webShop .boundary ['w', 'e', 'b'] none :=
    ⟨webShop[0], by decide, "Web shop", by decide +kernel⟩
  have component : ({} : Registry).Aliased webShop .component ['w', 'e', 'b']
      (some ['a', 'p', 'p']) := ⟨webShop[1], by decide, "Checkout", by decide +kernel⟩
  have threat : ({} : Registry).Aliased webShop .threat ['w', 'e', 'b'] none :=
    ⟨webShop[2], by decide, "Stolen session", by decide +kernel⟩
  obtain ⟨spelled, described⟩ := references_of_aliases "shop"
  have within := spelled {} webShop _ _ web app boundary component threat
  have exposes : Statement.ofText? webShop[3].kind webShop[3].text =
      some (.standing .exposure ⟨"@web", "@app"⟩ "@web" "long sessions") := by decide +kernel
  have connects : Statement.ofText? webShop[4].kind webShop[4].text =
      some (.connecting ⟨"@web", "@app"⟩ ⟨"@user", "@browser"⟩ .oneWay (some "page")) := by
    decide +kernel
  have ⟨_, listed, places, threats⟩ := (within webShop[3] (by decide) _ exposes).1 longSessions
    (by decide +kernel) rfl rfl (by decide +kernel)
  have ⟨_, ends⟩ := (within webShop[4] (by decide) _ connects).2 _ _ _ _ rfl
  have ⟨_, found⟩ := described { threats := .insert ∅ "@web" stolenSession } explanation .threat
    ['w', 'e', 'b'] none "a cookie is taken" (.threat "@web") stolenSession rfl (by decide +kernel)
    web (by decide) rfl (by decide +kernel)
  exact ⟨web, app, boundary, component, threat, listed, places, threats,
    ends ⟨"@web", "@app"⟩ List.mem_cons_self rfl "@5", found⟩

def capitalShop : List Tag :=
  [⟨.aliases, "@alias boundary @Web to Web shop", { line := 1 }⟩,
   ⟨.aliases, "@alias component @Web:@App to Checkout", { line := 2 }⟩,
   ⟨.aliases, "@alias threat @Web to Stolen session", { line := 3 }⟩,
   ⟨.exposes, "@exposes @Web:@App to @Web with long sessions", { line := 4 }⟩]

def cleartext : Document where
  threats := .insert ∅ "@CWE_319" { name := "Cleartext transmission" }

/-- A capital letter after the `@` is enough for an alias to be missed, and for an entry that was
taken over. -/
theorem referenceIssues_capitalShop :
    ({} : Registry).Aliased capitalShop .boundary ['W', 'e', 'b'] none ∧
    ({} : Registry).Aliased capitalShop .component ['W', 'e', 'b'] (some ['A', 'p', 'p']) ∧
    ({} : Registry).Aliased capitalShop .threat ['W', 'e', 'b'] none ∧
    (({} : Registry).applyAll capitalShop).2 = [] ∧
    ((({} : Registry).applyAll capitalShop).1.toDocument "shop").referenceIssues =
      [⟨"shop/exposure", .boundary, "@Web", "@4"⟩,
       ⟨"shop/exposure", .component, "@Web:@App", "@4"⟩,
       ⟨"shop/exposure", .threat, "@Web", "@4"⟩] ∧
    (({} : Registry).importEntries cleartext).threats.contains "@CWE_319" = true ∧
    ((({} : Registry).importEntries cleartext).apply
      ⟨.describes, "@describe threat @CWE_319 as sent in the clear", { line := 1 }⟩).2 =
        some (.unknownEntry .threat "@cwe_319" { line := 1 }) := by
  have sorted : inRankOrder capitalShop = capitalShop := List.mergeSort_of_pairwise (by decide)
  unfold applyAll
  rw [sorted]
  refine ⟨⟨capitalShop[0], by decide, "Web shop", by decide +kernel⟩,
    ⟨capitalShop[1], by decide, "Checkout", by decide +kernel⟩,
    ⟨capitalShop[2], by decide, "Stolen session", by decide +kernel⟩, ?_⟩
  decide +kernel

end Registry

end ThreatModel
