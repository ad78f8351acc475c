import ThreatModel.Proofs.Element
import ThreatModel.Proofs.Registry.Naming
import ThreatModel.Proofs.Tag.Grammar

namespace ThreatModel

namespace Statement

def names : Statement → List (EntryClass × String)
  | reviewing place _ => [(.boundary, place.boundary), (.component, place.component)]
  | standing kind place threat _ =>
    if Registry.placeComesFirst kind then
      [(.boundary, place.boundary), (.component, place.component), (.threat, threat)]
    else [(.threat, threat), (.boundary, place.boundary), (.component, place.component)]
  | naming _ _ | describing _ _ | connecting _ _ _ _ => []

def nameless? (s : Statement) : Option (EntryClass × String) :=
  s.names.find? fun name => Naming.Nameless name.2

theorem nameless?_reviewing {place : Place} {text : String} :
    (reviewing place text).nameless? = none ↔
      ¬ Naming.Nameless place.boundary ∧ ¬ Naming.Nameless place.component := by
  simp [nameless?, names]

theorem nameless?_standing {kind : StanceKind} {place : Place} {threat text : String} :
    (standing kind place threat text).nameless? = none ↔
      ¬ Naming.Nameless place.boundary ∧ ¬ Naming.Nameless place.component ∧
        ¬ Naming.Nameless threat := by
  cases first : Registry.placeComesFirst kind <;> simp [nameless?, names, first]
  exact and_rotate

def element? (source : Source) : Statement → Option Element
  | reviewing place text =>
    let (body, refs) := Tag.splitRefs text.toList
    some (.review { boundary := Identifier.ofText place.boundary,
                    component := Identifier.ofText place.component,
                    text := .ofList body, refs := refs.map .ofList, source })
  | standing kind place threat text =>
    let (body, refs) := Tag.splitRefs text.toList
    some (.stance kind { boundary := Identifier.ofText place.boundary,
                         component := Identifier.ofText place.component,
                         threat := Identifier.ofText threat,
                         text := .ofList body, refs := refs.map .ofList, source })
  | naming _ _ | describing _ _ | connecting _ _ _ _ => none

end Statement

namespace Registry

/-- The outcome of a step that registers names and then goes on: the first name that has no
identifier stops it before any element is recorded. -/
def Settled (before after : Elements) (names : List (EntryClass × String)) (out : Outcome) : Prop :=
  match names.find? fun name => Naming.Nameless name.2 with
  | some (cls, name) => out.2 = some (.emptyIdentifier cls name) ∧ out.1.elements = before
  | none => out.2 = none ∧ out.1.elements = after

section Settled

variable {before after : Elements} {names : List (EntryClass × String)} {r : Registry}

theorem settled_cons {cls : EntryClass} {name : String} {noted : Naming → Registry}
    {next : String → Registry → Outcome} (here : r.elements = before)
    (kept : ∀ n, (noted n).elements = r.elements)
    (later : ∀ s : Registry, s.elements = before →
      Settled before after names (next (Identifier.ofText name) s)) :
    Settled before after ((cls, name) :: names)
      (r.proceed ((Naming.of cls name none).map fun n => (n.id name, noted n)) next) := by
  rw [proceed_map]
  unfold Settled
  by_cases empty : Naming.Nameless name
  · rw [Naming.of_nameless empty cls, List.find?_cons_of_pos (by simpa using empty)]
    exact ⟨rfl, here⟩
  · obtain ⟨n, decided, identifier⟩ := Naming.of_not_nameless empty cls
    rw [decided, List.find?_cons_of_neg (by simpa using empty)]
    have rest := later (noted n) ((kept n).trans here)
    rw [← identifier] at rest
    exact rest

theorem elements_noteBoundary (r : Registry) (name : String) (n : Naming) :
    (r.noteBoundary name n).elements = r.elements := by
  cases n <;> rfl

theorem elements_noteComponent (r : Registry) (boundary name : String) (n : Naming) :
    (r.noteComponent boundary name n).elements = r.elements := by
  cases n <;> rfl

theorem elements_noteThreat (r : Registry) (name : String) (n : Naming) :
    (r.noteThreat name n).elements = r.elements := by
  cases n <;> rfl

theorem settled_addPlace {p : Place} {next : Place → Registry → Outcome}
    (here : r.elements = before)
    (later : ∀ s : Registry, s.elements = before →
      Settled before after names (next p.identified s)) :
    Settled before after ((.boundary, p.boundary) :: (.component, p.component) :: names)
      (r.addPlace p next) := by
  unfold addPlace
  rw [addBoundary_eq]
  apply settled_cons here (elements_noteBoundary r p.boundary)
  intro s kept
  rw [addComponent_eq]
  exact settled_cons kept (elements_noteComponent s _ p.component) later

theorem settled_addThreat {threat : String} {next : String → Registry → Outcome}
    (here : r.elements = before)
    (later : ∀ s : Registry, s.elements = before →
      Settled before after names (next (Identifier.ofText threat) s)) :
    Settled before after ((.threat, threat) :: names) (r.proceed (r.addThreat threat none) next) := by
  rw [addThreat_eq]
  exact settled_cons here (elements_noteThreat r threat) later

end Settled

theorem settled_recordReview {before : Elements} {r : Registry} {place : Place} {text : String}
    {source : Source} {e : Element}
    (recorded : Statement.element? source (.reviewing place text) = some e)
    (here : r.elements = before) :
    Settled before (before.record (Identifier.ofText e.text) e) []
      (r.recordReview place.identified text source, none) := by
  obtain rfl := Option.some.inj recorded
  subst here
  exact ⟨rfl, rfl⟩

theorem settled_recordStance {before : Elements} {r : Registry} {kind : StanceKind} {place : Place}
    {threat text : String} {source : Source} {e : Element}
    (recorded : Statement.element? source (.standing kind place threat text) = some e)
    (here : r.elements = before) :
    Settled before (before.record (Identifier.ofText e.text) e) []
      (r.recordStance kind place.identified (Identifier.ofText threat) text source, none) := by
  obtain rfl := Option.some.inj recorded
  subst here
  exact ⟨rfl, rfl⟩

theorem settled_state (r : Registry) {s : Statement} {source : Source} {e : Element}
    (recorded : s.element? source = some e) :
    Settled r.elements (r.elements.record (Identifier.ofText e.text) e) s.names
      (r.state source s) := by
  cases s with
  | naming => cases recorded
  | describing => cases recorded
  | connecting => cases recorded
  | reviewing place text =>
    apply settled_addPlace rfl
    intro s kept
    exact settled_recordReview recorded kept
  | standing kind place threat text =>
    cases first : placeComesFirst kind with
    | true =>
      simp only [state, Statement.names, first, if_true]
      apply settled_addPlace rfl
      intro s kept
      apply settled_addThreat kept
      intro t kept
      exact settled_recordStance recorded kept
    | false =>
      simp only [state, Statement.names, first, Bool.false_eq_true, if_false]
      apply settled_addThreat rfl
      intro s kept
      apply settled_addPlace kept
      intro t kept
      exact settled_recordStance recorded kept

theorem exists_element {kind : TagKind} {ws : List (List Char)} {s : Statement}
    (worded : s.Worded kind ws) (source : Source) :
    ∃ e, s.element? source = some e ∧ e.kind = kind := by
  cases kind with
  | reviews =>
    obtain ⟨_, _, rfl, _⟩ := worded
    exact ⟨_, rfl, rfl⟩
  | mitigates | exposes | transfers | accepts =>
    obtain ⟨_, _, _, rfl, _⟩ := worded
    exact ⟨_, rfl, rfl⟩
  | aliases | describes | connects => cases worded

theorem apply_of_worded (r : Registry) {tag : Tag} {s : Statement} {e : Element}
    (read : Statement.ofText? tag.kind tag.text = some s)
    (recorded : s.element? tag.source = some e) :
    Settled r.elements (r.elements.record (Identifier.ofText e.text) e) s.names (r.apply tag) := by
  unfold apply
  rw [read]
  exact settled_state r recorded

/-- A tag that records an element, in one-space form, is read exactly as its words are; if they
cannot be read, nothing changes. Otherwise a name without an identifier stops it, or else it adds
one element at the end of one list. -/
theorem apply_records (r : Registry) (tag : Tag) (records : tag.kind.records = true)
    (normal : Text.respace tag.text.toList = tag.text.toList) :
    (∀ s, Statement.ofText? tag.kind tag.text = some s ↔
      s.Worded tag.kind (Text.words tag.text.toList)) ∧
    ((∀ s : Statement, ¬ s.Worded tag.kind (Text.words tag.text.toList)) →
      r.apply tag = (r, some (.invalidPattern tag.kind tag.source))) ∧
    ∀ s : Statement, s.Worded tag.kind (Text.words tag.text.toList) →
      (∀ cls name, s.nameless? = some (cls, name) →
        (r.apply tag).2 = some (.emptyIdentifier cls name) ∧
        (r.apply tag).1.elements = r.elements) ∧
      (s.nameless? = none →
        (r.apply tag).2 = none ∧
        ∃ e, s.element? tag.source = some e ∧ ∀ kind key,
          (r.apply tag).1.elements.listed kind key =
            if kind = tag.kind ∧ key = Identifier.ofText e.text then
              some ((r.elements.listed kind key).getD [] ++ [e])
            else r.elements.listed kind key) := by
  have grammar := Statement.ofText?_iff_worded records normal
  refine ⟨grammar, ?_, ?_⟩
  · intro nothing
    unfold apply
    cases read : Statement.ofText? tag.kind tag.text with
    | none => rfl
    | some s => exact absurd ((grammar s).1 read) (nothing s)
  · intro s worded
    obtain ⟨e, recorded, kind⟩ := exists_element worded tag.source
    have settled := apply_of_worded r ((grammar s).2 worded) recorded
    constructor
    · intro cls name empty
      rw [Settled, show s.names.find? _ = _ from empty] at settled
      exact settled
    · intro named
      rw [Settled, show s.names.find? _ = _ from named] at settled
      refine ⟨settled.1, e, recorded, ?_⟩
      intro k key
      rw [settled.2, Elements.listed_record, kind]

def acceptance : Tag where
  kind := .accepts
  text := "@accepts writes to disk to @app:@disk with care to @app:@log with logs (#12)"
  source := { file := "app.c", line := 3, function := "main" }

/-- The first pair that stands between `to` and `with` ends the threat. -/
theorem acceptance_recorded :
    acceptance.kind.records = true ∧
    Text.respace acceptance.text.toList = acceptance.text.toList ∧
    (({} : Registry).apply acceptance).2 = none ∧
    (({} : Registry).apply acceptance).1.elements.listed .accepts "@care_to_applog_with_logs" =
      some [.stance .acceptance {
        boundary := "@app", component := "@disk", threat := "@writes_to_disk",
        text := "care to @app:@log with logs", refs := ["#12"], source := acceptance.source }] := by
  have records : acceptance.kind.records = true := rfl
  have normal : Text.respace acceptance.text.toList = acceptance.text.toList := by decide +kernel
  obtain ⟨grammar, _, outcome⟩ := apply_records {} acceptance records normal
  have read : Statement.ofText? acceptance.kind acceptance.text = some (.standing .acceptance
      ⟨"@app", "@disk"⟩ "writes to disk" "care to @app:@log with logs (#12)") := by decide +kernel
  obtain ⟨_, named⟩ := outcome _ ((grammar _).1 read)
  obtain ⟨done, e, recorded, lists⟩ := named (by decide +kernel)
  obtain rfl := Option.some.inj recorded
  refine ⟨records, normal, done, ?_⟩
  rw [lists]
  decide +kernel

end Registry

end ThreatModel
