import Mathlib.Logic.Basic
import Mathlib.Tactic.MkIffOfInductiveProp
import ThreatModel.Indexed.Format
import ThreatModel.Proofs.Json.Printer

namespace ThreatModel

open Json

variable {σ : Type} [Layered σ]

namespace Named

theorem plain_toJson (n : Named) : Plain n.toJson := .object (by simp [Plain.string])

theorem readsBack (n : Named) : ReadsBack (σ := σ) fromJson? toJson n := by
  intro v shown
  obtain ⟨fs, record, given⟩ := asRecord?_of_shows shown (by simp) ["name"]
  have name := given.required? "name" (by simp) (readsBack_string n.name)
  simp only [fromJson?, record, name, Option.bind_eq_bind, Option.bind_some, Option.pure_def]

end Named

namespace ExposesEntry

@[mk_iff]
structure Fits (e : ExposesEntry) : Prop where
  boundary : e.boundary < bitValues 64
  component : e.component < bitValues 64

instance (e : ExposesEntry) : Decidable e.Fits := decidable_of_iff' _ (fits_iff e)

variable {e : ExposesEntry}

theorem plain_toJson (fits : e.Fits) : Plain e.toJson := by
  refine .object ?_
  simp only [List.forall_mem_cons]
  exact ⟨.nat fits.boundary, .nat fits.component, .string _, plain_list fun _ _ => .string _,
    .string _, by simp⟩

theorem readsBack (fits : e.Fits) : ReadsBack (σ := σ) fromJson? toJson e := by
  intro v shown
  obtain ⟨fs, record, given⟩ := asRecord?_of_shows shown (by simp)
    ["boundary", "component", "exposure", "ref", "threat"]
  have boundary := given.required? "boundary" (by simp) (readsBack_index fits.boundary)
  have component := given.required? "component" (by simp) (readsBack_index fits.component)
  have exposure := given.required? "exposure" (by simp) (readsBack_string e.exposure)
  have refs := given.withDefault? "ref" [] (x := e.refs) (by simp [ofStrings])
    (readsBack_list fun s _ => readsBack_string s)
  have threat := given.required? "threat" (by simp) (readsBack_string e.threat)
  simp only [fromJson?, record, boundary, component, exposure, refs, threat, Option.bind_eq_bind,
    Option.bind_some, Option.pure_def]

end ExposesEntry

namespace SendsEntry

@[mk_iff]
structure Fits (e : SendsEntry) : Prop where
  srcBoundary : e.srcBoundary < bitValues 64
  srcComponent : e.srcComponent < bitValues 64
  dstBoundary : e.dstBoundary < bitValues 64
  dstComponent : e.dstComponent < bitValues 64

instance (e : SendsEntry) : Decidable e.Fits := decidable_of_iff' _ (fits_iff e)

variable {e : SendsEntry}

theorem plain_toJson (fits : e.Fits) : Plain e.toJson := by
  refine .object ?_
  simp only [List.forall_mem_cons]
  exact ⟨.nat fits.srcBoundary, .nat fits.srcComponent, .nat fits.dstBoundary,
    .nat fits.dstComponent, .string _, by simp⟩

theorem readsBack (fits : e.Fits) : ReadsBack (σ := σ) fromJson? toJson e := by
  intro v shown
  obtain ⟨fs, record, given⟩ := asRecord?_of_shows shown (by simp)
    ["srcboundary", "srccomponent", "dstboundary", "dstcomponent", "message"]
  have srcBoundary := given.required? "srcboundary" (by simp) (readsBack_index fits.srcBoundary)
  have srcComponent := given.required? "srccomponent" (by simp) (readsBack_index fits.srcComponent)
  have dstBoundary := given.required? "dstboundary" (by simp) (readsBack_index fits.dstBoundary)
  have dstComponent := given.required? "dstcomponent" (by simp) (readsBack_index fits.dstComponent)
  have message := given.withDefault? "message" "" (by simp) (readsBack_string e.message)
  simp only [fromJson?, record, srcBoundary, srcComponent, dstBoundary, dstComponent, message,
    Option.bind_eq_bind, Option.bind_some, Option.pure_def]

end SendsEntry

namespace MitigatesEntry

@[mk_iff]
structure Fits (e : MitigatesEntry) : Prop where
  boundary : e.boundary < bitValues 64
  component : e.component < bitValues 64

instance (e : MitigatesEntry) : Decidable e.Fits := decidable_of_iff' _ (fits_iff e)

variable {e : MitigatesEntry}

theorem plain_toJson (fits : e.Fits) : Plain e.toJson := by
  refine .object ?_
  simp only [List.forall_mem_cons]
  exact ⟨.nat fits.boundary, .nat fits.component, .string _, plain_list fun _ _ => .string _,
    .string _, by simp⟩

theorem readsBack (fits : e.Fits) : ReadsBack (σ := σ) fromJson? toJson e := by
  intro v shown
  obtain ⟨fs, record, given⟩ := asRecord?_of_shows shown (by simp)
    ["boundary", "component", "mitigation", "ref", "threat"]
  have boundary := given.required? "boundary" (by simp) (readsBack_index fits.boundary)
  have component := given.required? "component" (by simp) (readsBack_index fits.component)
  have mitigation := given.required? "mitigation" (by simp) (readsBack_string e.mitigation)
  have refs := given.withDefault? "ref" [] (x := e.refs) (by simp [ofStrings])
    (readsBack_list fun s _ => readsBack_string s)
  have threat := given.required? "threat" (by simp) (readsBack_string e.threat)
  simp only [fromJson?, record, boundary, component, mitigation, refs, threat, Option.bind_eq_bind,
    Option.bind_some, Option.pure_def]

end MitigatesEntry

namespace ProjectModel

section Sections

variable {α : Type} {name : String} {write : α → Json} {m : SortedMap Nat α}

theorem mem_sectionToJson {f : String × Json} :
    f ∈ sectionToJson name write m ↔ m.isEmpty = false ∧ f = (name, .ofIndexMap write m) := by
  unfold sectionToJson
  cases m.isEmpty <;> simp

theorem plain_sectionToJson (each : ∀ e ∈ m.entries, Plain (write e.2)) :
    ∀ f ∈ sectionToJson name write m, Plain f.2 := by
  intro f member
  obtain ⟨-, rfl⟩ := mem_sectionToJson.1 member
  exact plain_indexMap each

theorem readsBack_section {item : σ → Option α} {fs : Fields σ} {fields : List (String × Json)}
    (shown : fs.Show fields) (name : String)
    (own : ∀ v, (name, v) ∈ fields ↔ (name, v) ∈ sectionToJson name write m)
    (fits : ∀ e ∈ m.entries, e.1 < bitValues 64)
    (each : ∀ e ∈ m.entries, ReadsBack item write e.2) :
    fs.withDefault? name (asIndexMap? item) ∅ = some m := by
  cases empty : m.isEmpty with
  | true =>
    have missing : name ∉ fields.map (·.1) := by
      intro member
      obtain ⟨⟨_, v⟩, given, rfl⟩ := List.mem_map.1 member
      have full := (mem_sectionToJson.1 ((own v).1 given)).1
      rw [empty] at full
      cases full
    obtain rfl : ∅ = m := SortedMap.ext (List.isEmpty_iff.1 empty).symm
    exact shown.absent missing _
  | false =>
    have given := (own _).2 (mem_sectionToJson.2 ⟨empty, rfl⟩)
    exact shown.withDefault? name _ given (readsBack_indexMap fits each)

end Sections

@[mk_iff]
structure Fits (p : ProjectModel) : Prop where
  exposes : ∀ e ∈ p.exposes.entries, e.1 < bitValues 64 ∧ e.2.Fits
  sends : ∀ e ∈ p.sends.entries, e.1 < bitValues 64 ∧ e.2.Fits
  mitigates : ∀ e ∈ p.mitigates.entries, e.1 < bitValues 64 ∧ e.2.Fits

instance (p : ProjectModel) : Decidable p.Fits := decidable_of_iff' _ (fits_iff p)

variable {p : ProjectModel}

theorem plain_toJson (fits : p.Fits) : Plain p.toJson := by
  refine .object fun f member => ?_
  rcases List.mem_append.1 member with front | mitigates
  · rcases List.mem_append.1 front with exposes | sends
    · exact plain_sectionToJson (fun e held => ExposesEntry.plain_toJson (fits.exposes e held).2) f
        exposes
    · exact plain_sectionToJson (fun e held => SendsEntry.plain_toJson (fits.sends e held).2) f sends
  · exact plain_sectionToJson (fun e held => MitigatesEntry.plain_toJson (fits.mitigates e held).2) f
      mitigates

theorem readsBack (fits : p.Fits) : ReadsBack (σ := σ) fromJson? toJson p := by
  intro v shown
  have distinct : ((sectionToJson "exposes" ExposesEntry.toJson p.exposes ++
      sectionToJson "sends" SendsEntry.toJson p.sends ++
      sectionToJson "mitigates" MitigatesEntry.toJson p.mitigates).map (·.1)).Nodup := by
    unfold sectionToJson
    split <;> split <;> split <;> simp
  obtain ⟨fs, record, given⟩ := asRecord?_of_shows shown distinct ["exposes", "sends", "mitigates"]
  have exposes := readsBack_section given "exposes" (m := p.exposes) (by simp [mem_sectionToJson])
    (fun e held => (fits.exposes e held).1)
    fun e held => ExposesEntry.readsBack (fits.exposes e held).2
  have sends := readsBack_section given "sends" (m := p.sends) (by simp [mem_sectionToJson])
    (fun e held => (fits.sends e held).1)
    fun e held => SendsEntry.readsBack (fits.sends e held).2
  have mitigates := readsBack_section given "mitigates" (m := p.mitigates) (by simp [mem_sectionToJson])
    (fun e held => (fits.mitigates e held).1)
    fun e held => MitigatesEntry.readsBack (fits.mitigates e held).2
  simp only [fromJson?, record, exposes, sends, mitigates, Option.bind_eq_bind, Option.bind_some,
    Option.pure_def]

end ProjectModel

namespace IndexedModel

/-- All numbers of the model, keys among them, fit into 64 bits. -/
@[mk_iff]
structure Fits (m : IndexedModel) : Prop where
  boundaries : ∀ project ∈ m.boundaries.entries, ∀ e ∈ project.2.entries, e.1 < bitValues 64
  components : ∀ project ∈ m.components.entries, ∀ e ∈ project.2.entries, e.1 < bitValues 64
  models : ∀ project ∈ m.models.entries, project.2.Fits

instance (m : IndexedModel) : Decidable m.Fits := decidable_of_iff' _ (fits_iff m)

variable {m : IndexedModel}

theorem plain_toJson (fits : m.Fits) : Plain m.toJson := by
  refine .object ?_
  simp only [List.forall_mem_cons]
  exact ⟨plain_map fun _ _ => plain_indexMap fun e _ => e.2.plain_toJson,
    plain_map fun _ _ => plain_indexMap fun e _ => e.2.plain_toJson,
    plain_map fun project held => ProjectModel.plain_toJson (fits.models project held),
    plain_map fun _ _ => .string _, by simp⟩

theorem readsBack (fits : m.Fits) : ReadsBack (σ := σ) fromJson? toJson m := by
  intro v shown
  obtain ⟨fs, record, given⟩ := asRecord?_of_shows shown (by simp)
    ["boundaries", "components", "models", "threats"]
  have boundaries := given.withDefault? "boundaries" ∅ (x := m.boundaries) (by simp)
    (readsBack_map fun project held =>
      readsBack_indexMap (fits.boundaries project held) fun e _ => e.2.readsBack)
  have components := given.withDefault? "components" ∅ (x := m.components) (by simp)
    (readsBack_map fun project held =>
      readsBack_indexMap (fits.components project held) fun e _ => e.2.readsBack)
  have models := given.withDefault? "models" ∅ (x := m.models) (by simp)
    (readsBack_map fun project held => ProjectModel.readsBack (fits.models project held))
  have threats := given.withDefault? "threats" ∅ (x := m.threats) (by simp)
    (readsBack_map fun e _ => readsBack_string e.2)
  simp only [fromJson?, record, boundaries, components, models, threats, Option.bind_eq_bind,
    Option.bind_some, Option.pure_def]

/-- The text of a model is read as that model. -/
theorem load?_pretty (fits : m.Fits) : load? m.pretty = some m := by
  obtain ⟨w, text, shown⟩ := Written.ofText?_pretty (plain_toJson fits)
  rw [load?, pretty, text]
  exact readsBack fits w shown

/-- A model at the limits: the largest number as a key and in every field, keys whose numerals are not
in the order of the numbers, escapes, and sections, projects and texts that are empty. -/
def extreme : IndexedModel :=
  let last := bitValues 64 - 1
  { boundaries := .ofList [("", .ofList [(0, ⟨""⟩), (last, ⟨"\"\\/\x00\x1f\x7f\n"⟩)]), ("\u2028", ∅)]
    components := .ofList [("p", .ofList [(10, ⟨"c10"⟩), (2, ⟨"é😀\t"⟩)])]
    models := .ofList [("10", {}), ("p\"", {
      exposes := .ofList [(last, ⟨last, last, "\\u0041", ["", "#1"], "\x08\x0c"⟩)]
      mitigates := .ofList [(0, ⟨0, 0, "", [], ""⟩), (100, ⟨last, 7, "m", ["\r"], "@t"⟩)] }),
      ("q", { sends := .ofList [(9, ⟨last, last, last, last, ""⟩), (11, ⟨0, 1, 2, 3, "é"⟩)] })]
    threats := .ofList [("", ""), ("@t\"", "\n")] }

theorem load?_pretty_extreme : extreme.Fits ∧ load? extreme.pretty = some extreme := by
  have fits : extreme.Fits := by decide +kernel
  exact ⟨fits, load?_pretty fits⟩

end IndexedModel

end ThreatModel
