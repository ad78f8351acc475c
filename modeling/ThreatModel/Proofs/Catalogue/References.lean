import ThreatModel.Proofs.Catalogue.Identifiers
import ThreatModel.Proofs.Registry.Accounting
import ThreatModel.Proofs.Tag.ThreatWord

namespace ThreatModel

open Identifier SortedMap Text

theorem Naming.isIdentifier_of_mem_given {home : String} {names : List (EntryClass × String)}
    {t : Subject} {name : String} (member : (t, name) ∈ given home names) :
    isIdentifier name = false ∧ ∃ cls, (cls, name) ∈ names ∧ t = cls.subject home name := by
  induction names with
  | nil => cases member
  | cons first names ih =>
    obtain ⟨cls, n⟩ := first
    have later (rest : (t, name) ∈ given home names) : isIdentifier name = false ∧
        ∃ c, (c, name) ∈ (cls, n) :: names ∧ t = c.subject home name := by
      obtain ⟨fresh, c, inside, same⟩ := ih rest
      exact ⟨fresh, c, List.mem_cons_of_mem _ inside, same⟩
    rw [given] at member
    split at member
    · cases member
    · split at member
      · exact later member
      · rename_i fresh
        rcases List.mem_cons.1 member with here | rest
        · cases here
          exact ⟨Bool.eq_false_iff.2 fresh, cls, List.mem_cons_self, rfl⟩
        · exact later rest

namespace Statement

variable {kind : StanceKind} {place : Place} {threat text : String}
  (already : isIdentifier threat = true)

include already

theorem not_mem_registers_standing (id name : String) :
    (.threat id, name) ∉ (standing kind place threat text).registers := by
  intro member
  obtain ⟨fresh, cls, inside, same⟩ := Naming.isIdentifier_of_mem_given member
  cases cls with
  | boundary | component => cases same
  | threat =>
    -- Of the names of a stance only its threat is of this class.
    have spelled : name = threat := by
      cases first : Registry.placeComesFirst kind <;> simpa [names, first] using inside
    rw [spelled, already] at fresh
    cases fresh

theorem nameless?_eq_none_iff :
    (standing kind place threat text).nameless? = none ↔
      ¬ Naming.Nameless place.boundary ∧ ¬ Naming.Nameless place.component := by
  have named : ¬ Naming.Nameless threat := by
    intro nameless
    rw [nameless.1] at already
    cases already
  rw [nameless?_standing]
  simp only [named, not_false_eq_true, and_true]

theorem exists_element_standing (source : Source) :
    ∃ e, (standing kind place threat text).element? source = some e ∧ e.threat? = some threat := by
  have kept : ofText threat = threat := by
    simp only [ofText, already, Bool.or_true, if_true]
  exact ⟨_, rfl, congrArg some kept⟩

end Statement

namespace Document

variable {d : Document} {i : ReferenceIssue}

theorem cls_of_mem_placeIssues {context location : String} {p : Place}
    (issue : i ∈ d.placeIssues context p location) : i.cls ≠ .threat := by
  unfold placeIssues at issue
  rcases List.mem_append.1 issue with boundary | component
  · split at boundary
    · cases boundary
    · rw [List.mem_singleton.1 boundary]
      exact EntryClass.noConfusion
  · split at component
    · cases component
    · rw [List.mem_singleton.1 component]
      exact EntryClass.noConfusion

theorem cls_of_mem_referenceIssues
    (declared : ∀ project e, d.Records project e → ∀ threat, e.threat? = some threat →
      d.threats.contains threat = true)
    (issue : i ∈ d.referenceIssues) : i.cls ≠ .threat := by
  rcases mem_referenceIssues.1 issue with ⟨project, e, recorded, place | threat⟩ | ⟨c, _, edge⟩
  · exact cls_of_mem_placeIssues place
  · rw [elementThreatIssues_eq_nil.2 (declared project e recorded)] at threat
    cases threat
  · rcases List.mem_append.1 edge with origin | target
    · exact cls_of_mem_placeIssues origin
    · exact cls_of_mem_placeIssues target

end Document

namespace Registry

section Stance

variable {tag : Tag} {kind : StanceKind} {place : Place} {threat text : String}
  (read : Statement.ofText? tag.kind tag.text = some (.standing kind place threat text))
  (already : isIdentifier threat = true)

include read already

theorem threats_apply_standing (r : Registry) : (r.apply tag).1.threats = r.threats := by
  have same : kind.tagKind = tag.kind := Statement.kind_of_ofText? read
  have other : tag.kind ≠ .describes := by
    rw [← same]
    cases kind <;> exact TagKind.noConfusion
  refine ext_get? fun id => ?_
  have nothing : namedFor? tag.registers (.threat id) = none := by
    rw [← Option.not_isSome_iff_eq_none, isSome_namedFor?, Tag.registers, read]
    intro registered
    obtain ⟨name, member⟩ := registered
    exact Statement.not_mem_registers_standing already id name member
  have held := held?_apply r tag (.threat id)
  rw [nothing, Option.or_none, Tag.description?_eq_none other] at held
  exact held.trans Option.map_id'

theorem error_apply_standing (r : Registry) :
    (r.apply tag).2 = none ↔
      ¬ Naming.Nameless place.boundary ∧ ¬ Naming.Nameless place.component := by
  have same : kind.tagKind = tag.kind := Statement.kind_of_ofText? read
  have records : tag.kind.records = true := same ▸ StanceKind.records_tagKind kind
  rw [apply_eq_none_iff records, ← Statement.nameless?_eq_none_iff already]
  constructor
  · intro h
    obtain ⟨e, found⟩ := h
    obtain ⟨s, spoken, named, _⟩ := Tag.element?_eq_some.1 found
    obtain rfl := Option.some.inj (read.symm.trans spoken)
    exact named
  · intro named
    exact ⟨_, Tag.element?_eq_some.2 ⟨_, read, named, rfl⟩⟩

theorem threat?_of_element? {e : Element} (records : tag.element? = some e) :
    e.threat? = some threat := by
  obtain ⟨s, spoken, _, adds⟩ := Tag.element?_eq_some.1 records
  obtain rfl := Option.some.inj (read.symm.trans spoken)
  obtain ⟨f, same, about⟩ := Statement.exists_element_standing already tag.source
  rwa [← Option.some.inj (same.symm.trans adds)]

theorem toList_apply_standing {r : Registry} (empty : r.elements.toList = [])
    (done : (r.apply tag).2 = none) :
    ∃ e, (r.apply tag).1.elements.toList = [e] ∧ e.kind = tag.kind ∧ e.threat? = some threat ∧
      e.source = tag.source := by
  have same : kind.tagKind = tag.kind := Statement.kind_of_ofText? read
  have able : tag.kind.records = true := same ▸ StanceKind.records_tagKind kind
  obtain ⟨e, records⟩ := (apply_eq_none_iff able r).1 done
  obtain ⟨kinds, origin⟩ := Tag.kind_of_element? records
  refine ⟨e, ?_, kinds, threat?_of_element? read already records, origin⟩
  have added := r.elements.toList_record (ofText e.text) e
  rw [empty] at added
  rw [elements_apply, records, Option.elim_some]
  exact List.perm_singleton.1 added

end Stance

theorem threats_importEntries (r : Registry) (now : Int) {threats : SortedMap String Entry}
    (empty : r.threats = ∅) :
    (r.importEntries (Catalogue.library now threats)).threats = threats := by
  refine ext_get? fun id => ?_
  show (r.threats.union threats).get? id = threats.get? id
  rw [empty, get?_union, get?_empty, Option.none_or]

/-- The identifier of a weakness whose number has no blanks is one word, so the words of a tag around
it make a stance on it, whatever its name is. In a new registry with the library such a tag applies
exactly if its place has identifiers, and then records the identifier as it is. The threats stay as
they are, and no issue is about a threat. -/
theorem apply_weaknessReference (c : Catalogue) {w : Catalogue.Item} (listed : w ∈ c.weaknesses)
    (dark : ∀ ch ∈ w.id.toList, isBlank ch = false) (now created updated : Int) :
    let id := Catalogue.weaknessId w.id w.name
    let r := ({ created, updated } : Registry).importEntries (Catalogue.library now c.threats)
    (∀ kind ws place text, (∀ v ∈ ws, IsWord v) →
      ((Statement.standing kind place id text).Worded kind.tagKind ws ↔
        ∃ rest, Statement.AboutWord kind ws place id.toList rest ∧
          text = .ofList (unwords rest))) ∧
    ∀ (tag : Tag) kind place text, tag.kind = kind.tagKind →
      respace tag.text.toList = tag.text.toList →
      (Statement.standing kind place id text).Worded tag.kind (words tag.text.toList) →
      ((r.apply tag).2 = none ↔
        ¬ Naming.Nameless place.boundary ∧ ¬ Naming.Nameless place.component) ∧
      ((r.apply tag).2 = none → ∃ e, (r.apply tag).1.elements.toList = [e] ∧ e.kind = tag.kind ∧
        e.threat? = some id ∧ e.source = tag.source) ∧
      (r.apply tag).1.threats = r.threats ∧
      ∀ project, ∀ i ∈ ((r.apply tag).1.toDocument project).referenceIssues, i.cls ≠ .threat := by
  intro id r
  have already : isIdentifier id = true := Catalogue.isIdentifier_weaknessId w.id w.name
  have word : IsWord id.toList := Catalogue.isWord_weaknessId dark w.name
  constructor
  · intro kind ws place text proper
    have spelled : id = .ofList id.toList := String.ofList_toList.symm
    rw [spelled, Statement.worded_iff_aboutWord proper word, ← spelled]
  · intro tag kind place text same normal worded
    have records : tag.kind.records = true := by
      rw [same]
      exact StanceKind.records_tagKind kind
    have read := (Statement.ofText?_iff_worded records normal _).2 worded
    have kept := threats_apply_standing read already r
    refine ⟨error_apply_standing read already r, toList_apply_standing read already rfl, kept, ?_⟩
    intro project i issue
    refine Document.cls_of_mem_referenceIssues ?_ issue
    intro p e recorded threat about
    obtain ⟨_, member⟩ := records_toDocument.1 recorded
    have added : tag.element? = some e :=
      (mem_elements_apply.1 member).resolve_left List.not_mem_nil
    rw [threat?_of_element? read already added] at about
    obtain rfl := Option.some.inj about
    show (r.apply tag).1.threats.contains id = true
    rw [kept, threats_importEntries _ now rfl]
    exact Catalogue.contains_threats listed

def plainTransport : Catalogue.Item where
  id := "319"
  name := "Data sent to @web:@app with no (TLS)"

def plainTransportTag : Tag where
  kind := .accepts
  text := "@accepts @cwe_319_data_sent_to_webapp_with_no_tls to Web:App with a VPN (#9)"
  source := { file := "app.c", line := 3, function := "main" }

theorem apply_plainTransportTag :
    let c : Catalogue := { weaknesses := [{ id := "1", name := "Other" }, plainTransport] }
    let id := Catalogue.weaknessId plainTransport.id plainTransport.name
    let r := ({} : Registry).importEntries (Catalogue.library 0 c.threats)
    plainTransport ∈ c.weaknesses ∧ (∀ ch ∈ plainTransport.id.toList, isBlank ch = false) ∧
      respace plainTransportTag.text.toList = plainTransportTag.text.toList ∧
      (∃ rest, Statement.AboutWord .acceptance (words plainTransportTag.text.toList) ⟨"Web", "App"⟩
        id.toList rest) ∧
      (r.apply plainTransportTag).2 = none ∧
      (∃ e, (r.apply plainTransportTag).1.elements.toList = [e] ∧
        e.threat? = some "@cwe_319_data_sent_to_webapp_with_no_tls") ∧
      (r.apply plainTransportTag).1.threats = r.threats ∧
      ∀ i ∈ ((r.apply plainTransportTag).1.toDocument "shop").referenceIssues, i.cls ≠ .threat := by
  intro c id r
  have listed : plainTransport ∈ c.weaknesses := List.mem_cons_of_mem _ List.mem_cons_self
  have number : IsWord plainTransport.id.toList := by decide
  have dark : ∀ ch ∈ plainTransport.id.toList, isBlank ch = false := number.2
  have normal : respace plainTransportTag.text.toList = plainTransportTag.text.toList := by
    decide +kernel
  have spelled : id = "@cwe_319_data_sent_to_webapp_with_no_tls" := by decide +kernel
  have read : Statement.ofText? plainTransportTag.kind plainTransportTag.text =
      some (.standing .acceptance ⟨"Web", "App"⟩ id "a VPN (#9)") := by
    rw [spelled]
    decide +kernel
  have worded := (Statement.ofText?_iff_worded rfl normal _).1 read
  obtain ⟨readings, outcome⟩ := apply_weaknessReference c listed dark 0 0 0
  obtain ⟨rest, about, _⟩ := (readings .acceptance _ _ _ fun v => isWord_of_mem_words).1 worded
  obtain ⟨applies, records, kept, issues⟩ :=
    outcome plainTransportTag .acceptance _ _ rfl normal worded
  have done := applies.2 (by decide +kernel)
  obtain ⟨e, only, _, refers, _⟩ := records done
  rw [← spelled]
  exact ⟨listed, dark, normal, ⟨rest, about⟩, done, ⟨e, only, refers⟩, kept, issues "shop"⟩

end Registry

end ThreatModel
