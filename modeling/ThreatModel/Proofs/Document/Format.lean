import ThreatModel.Document.Format
import ThreatModel.Proofs.Element
import ThreatModel.Proofs.Json.Printer

namespace ThreatModel

open Json

variable {σ : Type} [Layered σ]

namespace Source

theorem plain_toJson {s : Source} (fits : s.line < bitValues 64) : Plain s.toJson := by
  refine .object ?_
  simp only [List.forall_mem_cons]
  exact ⟨.string _, .nat fits, .string _, by simp⟩

theorem readsBack {s : Source} (fits : s.line < bitValues 64) :
    ReadsBack (σ := σ) fromJson? toJson s := by
  intro v shown
  obtain ⟨fs, record, given⟩ := asRecord?_of_shows shown (by simp) ["file", "line", "function"]
  have file := given.required? "file" (by simp) (readsBack_string s.file)
  have line := given.required? "line" (by simp) (readsBack_index fits)
  have function := given.required? "function" (by simp) (readsBack_string s.function)
  simp only [fromJson?, record, file, line, function, Option.bind_eq_bind, Option.bind_some,
    Option.pure_def]

end Source

namespace Entry

def fields (e : Entry) : List (String × Json) :=
  [("name", .string e.name)] ++
  (if e.description.isEmpty then [] else [("description", .string e.description)]) ++
  (if e.references.isEmpty then [] else [("references", .ofStrings e.references)]) ++
  e.parent.toList.map fun p => ("parent", .string p)

theorem plain_toJson (e : Entry) : Plain e.toJson := by
  refine .object fun f member => ?_
  simp only [List.mem_append, List.mem_singleton, List.mem_map, Option.mem_toList] at member
  rcases member with ((rfl | description) | references) | ⟨p, -, rfl⟩
  · exact .string _
  · split at description
    · cases description
    · rw [List.mem_singleton.1 description]
      exact .string _
  · split at references
    · cases references
    · rw [List.mem_singleton.1 references]
      exact plain_list fun _ _ => .string _
  · exact .string _

theorem readsBack (e : Entry) : ReadsBack (σ := σ) fromJson? toJson e := by
  intro v shown
  have distinct : (e.fields.map (·.1)).Nodup := by
    unfold fields
    cases e.parent <;> split <;> split <;> simp
  obtain ⟨fs, record, given⟩ := asRecord?_of_shows shown distinct
    ["name", "description", "references", "parent"]
  have name := given.required? "name" (by simp) (readsBack_string e.name)
  have description : fs.withDefault? "description" asString? "" = some e.description := by
    by_cases empty : e.description = ""
    · rw [empty]
      exact given.absent (by simp [empty]) _
    · exact given.withDefault? "description" "" (by simp [empty]) (readsBack_string e.description)
  have references : fs.withDefault? "references" (asList? asString?) [] = some e.references := by
    by_cases empty : e.references = []
    · rw [empty]
      exact given.absent (by simp [empty]) _
    · exact given.withDefault? "references" [] (by simp [empty, ofStrings])
        (readsBack_list fun s _ => readsBack_string s)
  have parent : fs.withDefault? "parent" (asOption? asString?) none = some e.parent := by
    cases up : e.parent with
    | none => exact given.absent (by simp [up]) _
    | some p => exact given.withDefault? "parent" none (by simp [up]) (readsBack_option (some p))
  simp only [fromJson?, record, name, description, references, parent, Option.bind_eq_bind,
    Option.bind_some, Option.pure_def]

end Entry

theorem Direction.readsBack (d : Direction) :
    ReadsBack (σ := σ) fromJson? (fun d => .string d.word) d := by
  intro v shown
  cases shown with
  | string here => cases d <;> simp [fromJson?, here, word, ofWord?]

namespace Edge

theorem plain_toJson {e : Edge} (fits : e.source.line < bitValues 64) : Plain e.toJson := by
  refine .object fun f member => ?_
  simp only [List.mem_append, List.mem_singleton, List.mem_map, Option.mem_toList] at member
  rcases member with (rfl | ⟨l, -, rfl⟩) | rfl
  · exact .string _
  · exact .string _
  · exact Source.plain_toJson fits

theorem readsBack {e : Edge} (fits : e.source.line < bitValues 64) :
    ReadsBack (σ := σ) fromJson? toJson e := by
  intro v shown
  obtain ⟨fs, record, given⟩ := asRecord?_of_shows shown (by cases e.label <;> simp)
    ["type", "name", "source"]
  have direction := given.required? "type" (by simp) (Direction.readsBack e.direction)
  have label : fs.withDefault? "name" (asOption? asString?) none = some e.label := by
    cases said : e.label with
    | none => exact given.absent (by simp [said]) _
    | some l => exact given.withDefault? "name" none (by simp [said]) (readsBack_option (some l))
  have source := given.required? "source" (by simp) (Source.readsBack fits)
  simp only [fromJson?, record, direction, label, source, Option.bind_eq_bind, Option.bind_some,
    Option.pure_def]

end Edge

namespace Dataflow

theorem edge_fits {d : Dataflow} (fits : ∀ c ∈ d.connections, c.edge.source.line < bitValues 64)
    {a b c e} (ha : a ∈ d.tree.entries) (hb : b ∈ a.2.entries) (hc : c ∈ b.2.entries)
    (he : e ∈ c.2.entries) : e.2.source.line < bitValues 64 := by
  refine fits ⟨⟨a.1, b.1⟩, ⟨c.1, e.1⟩, e.2⟩ ?_
  simp only [connections, List.mem_flatMap, List.mem_map]
  exact ⟨a, ha, b, hb, c, hc, e, he, rfl⟩

theorem plain_toJson {d : Dataflow} (fits : ∀ c ∈ d.connections, c.edge.source.line < bitValues 64) :
    Plain d.toJson :=
  plain_map fun _ ha => plain_map fun _ hb => plain_map fun _ hc => plain_map fun _ he =>
    Edge.plain_toJson (edge_fits fits ha hb hc he)

theorem readsBack {d : Dataflow} (fits : ∀ c ∈ d.connections, c.edge.source.line < bitValues 64) :
    ReadsBack (σ := σ) fromJson? toJson d := by
  intro v shown
  have tree := readsBack_map fun _ ha => readsBack_map fun _ hb => readsBack_map fun _ hc =>
    readsBack_map fun _ he => Edge.readsBack (σ := σ) (edge_fits fits ha hb hc he)
  rw [fromJson?, tree v shown]
  rfl

end Dataflow

namespace Stance

theorem plain_toJson (kind : StanceKind) {s : Stance} (fits : s.source.line < bitValues 64) :
    Plain (s.toJson kind) := by
  refine .object ?_
  simp only [List.forall_mem_cons]
  exact ⟨.string _, .string _, .string _, .string _, plain_list fun _ _ => .string _,
    Source.plain_toJson fits, by simp⟩

theorem readsBack (kind : StanceKind) {s : Stance} (fits : s.source.line < bitValues 64) :
    ReadsBack (σ := σ) (fromJson? kind) (toJson kind) s := by
  intro v shown
  have distinct : ((["boundary", "component", "threat", kind.word, "refs", "source"]).Nodup) := by
    cases kind <;> decide
  obtain ⟨fs, record, given⟩ := asRecord?_of_shows shown distinct
    ["boundary", "component", "threat", kind.word, "refs", "source"]
  have boundary := given.required? "boundary" (by simp) (readsBack_string s.boundary)
  have component := given.required? "component" (by simp) (readsBack_string s.component)
  have threat := given.required? "threat" (by simp) (readsBack_string s.threat)
  have text := given.required? kind.word (by simp) (readsBack_string s.text)
  have refs : fs.withDefault? "refs" (asList? asString?) [] = some s.refs :=
    given.withDefault? "refs" [] (by simp [ofStrings]) (readsBack_list fun s _ => readsBack_string s)
  have source := given.required? "source" (by simp) (Source.readsBack fits)
  simp only [fromJson?, record, boundary, component, threat, text, refs, source,
    Option.bind_eq_bind, Option.bind_some, Option.pure_def]

end Stance

namespace Review

theorem plain_toJson {r : Review} (fits : r.source.line < bitValues 64) : Plain r.toJson := by
  refine .object ?_
  simp only [List.forall_mem_cons]
  exact ⟨.string _, .string _, .string _, plain_list fun _ _ => .string _,
    Source.plain_toJson fits, by simp⟩

theorem readsBack {r : Review} (fits : r.source.line < bitValues 64) :
    ReadsBack (σ := σ) fromJson? toJson r := by
  intro v shown
  obtain ⟨fs, record, given⟩ := asRecord?_of_shows shown (by simp)
    ["boundary", "component", "review", "refs", "source"]
  have boundary := given.required? "boundary" (by simp) (readsBack_string r.boundary)
  have component := given.required? "component" (by simp) (readsBack_string r.component)
  have text := given.required? "review" (by simp) (readsBack_string r.text)
  have refs : fs.withDefault? "refs" (asList? asString?) [] = some r.refs :=
    given.withDefault? "refs" [] (by simp [ofStrings]) (readsBack_list fun s _ => readsBack_string s)
  have source := given.required? "source" (by simp) (Source.readsBack fits)
  simp only [fromJson?, record, boundary, component, text, refs, source, Option.bind_eq_bind,
    Option.bind_some, Option.pure_def]

end Review

namespace Elements

theorem plain_mapToJson {α : Type} {write : α → Json} {m : ElementMap α}
    (each : ∀ group ∈ m.entries, ∀ x ∈ group.2, Plain (write x)) : Plain (mapToJson write m) :=
  plain_map fun group held => plain_list (each group held)

theorem readsBack_mapToJson {α : Type} {item : σ → Option α} {write : α → Json} {m : ElementMap α}
    (each : ∀ group ∈ m.entries, ∀ x ∈ group.2, ReadsBack item write x) :
    ReadsBack (asMap? (asList? item)) (mapToJson write) m :=
  readsBack_map fun group held => readsBack_list (each group held)

variable {es : Elements}

theorem plain_toJson (fits : ∀ e ∈ es.toList, e.source.line < bitValues 64) : Plain es.toJson := by
  have stances (kind : StanceKind) : Plain (mapToJson (Stance.toJson kind) (es.stances kind)) :=
    plain_mapToJson fun _ held _ member =>
      Stance.plain_toJson kind (fits _ (stance_mem_toList held member))
  have reviews : Plain (mapToJson Review.toJson es.reviews) :=
    plain_mapToJson fun _ held _ member => Review.plain_toJson (fits _ (review_mem_toList held member))
  refine .object ?_
  simp only [List.forall_mem_cons]
  exact ⟨stances .mitigation, stances .exposure, stances .acceptance, stances .transfer, reviews,
    by simp⟩

theorem readsBack (fits : ∀ e ∈ es.toList, e.source.line < bitValues 64) :
    ReadsBack (σ := σ) fromJson? toJson es := by
  intro v shown
  obtain ⟨fs, record, given⟩ := asRecord?_of_shows shown (by simp)
    ["mitigations", "exposures", "acceptances", "transfers", "reviews"]
  have stances (kind : StanceKind) : ReadsBack (σ := σ) (asMap? (asList? (Stance.fromJson? kind)))
      (mapToJson (Stance.toJson kind)) (es.stances kind) :=
    readsBack_mapToJson fun _ held _ member =>
      Stance.readsBack kind (fits _ (stance_mem_toList held member))
  have mitigations := given.withDefault? "mitigations" ∅ (by simp [Elements.stances])
    (stances .mitigation)
  have exposures := given.withDefault? "exposures" ∅ (by simp [Elements.stances])
    (stances .exposure)
  have acceptances := given.withDefault? "acceptances" ∅ (by simp [Elements.stances])
    (stances .acceptance)
  have transfers := given.withDefault? "transfers" ∅ (by simp [Elements.stances])
    (stances .transfer)
  have reviews := given.withDefault? "reviews" ∅ (x := es.reviews) (by simp)
    (readsBack_mapToJson fun _ held _ member =>
      Review.readsBack (fits _ (review_mem_toList held member)))
  simp only [fromJson?, record, mitigations, exposures, acceptances, transfers, reviews,
    Option.bind_eq_bind, Option.bind_some, Option.pure_def]
  rfl

end Elements

theorem Specification.plain_toJson (s : Specification) : Plain s.toJson := by
  refine .object ?_
  simp only [List.forall_mem_cons]
  exact ⟨.string _, .string _, by simp⟩

theorem Specification.readsBack (s : Specification) : ReadsBack (σ := σ) fromJson? toJson s := by
  intro v shown
  obtain ⟨fs, record, given⟩ := asRecord?_of_shows shown (by simp) ["name", "version"]
  have name := given.required? "name" (by simp) (readsBack_string s.name)
  have version := given.required? "version" (by simp) (readsBack_string s.version)
  simp only [fromJson?, record, name, version, Option.bind_eq_bind, Option.bind_some, Option.pure_def]

namespace Timestamps

variable {t : Timestamps}

theorem plain_toJson (created : isSigned64 t.created = true) (updated : isSigned64 t.updated = true) :
    Plain t.toJson := by
  refine .object ?_
  simp only [List.forall_mem_cons]
  exact ⟨.int (.inl created), .int (.inl updated), by simp⟩

theorem readsBack (created : isSigned64 t.created = true) (updated : isSigned64 t.updated = true) :
    ReadsBack (σ := σ) fromJson? toJson t := by
  intro v shown
  obtain ⟨fs, record, given⟩ := asRecord?_of_shows shown (by simp) ["created", "updated"]
  have first := given.required? "created" (by simp) (readsBack_int64 created)
  have last := given.required? "updated" (by simp) (readsBack_int64 updated)
  simp only [fromJson?, record, first, last, Option.bind_eq_bind, Option.bind_some, Option.pure_def]

end Timestamps

namespace Document

/-- The limits of what a document can hold: times are integers of 64 bits with a sign, and the numbers
of lines have no sign. -/
structure Fits (d : Document) : Prop where
  created : isSigned64 d.times.created = true
  updated : isSigned64 d.times.updated = true
  edges : ∀ c ∈ d.dataflow.connections, c.edge.source.line < bitValues 64
  elements : ∀ project ∈ d.projects.entries, ∀ e ∈ project.2.toList, e.source.line < bitValues 64

variable {d : Document}

theorem plain_toJson (fits : d.Fits) : Plain d.toJson := by
  refine .object ?_
  simp only [List.forall_mem_cons]
  exact ⟨Specification.plain_toJson _, Timestamps.plain_toJson fits.created fits.updated,
    plain_map fun e _ => Entry.plain_toJson e.2,
    plain_map fun _ _ => plain_map fun e _ => Entry.plain_toJson e.2,
    plain_map fun e _ => Entry.plain_toJson e.2, Dataflow.plain_toJson fits.edges,
    plain_map fun project held => Elements.plain_toJson (fits.elements project held), by simp⟩

theorem readsBack (fits : d.Fits) : ReadsBack (σ := σ) fromJson? toJson d := by
  intro v shown
  obtain ⟨fs, record, given⟩ := asRecord?_of_shows shown (by simp)
    ["specification", "document", "boundaries", "components", "threats", "dfd", "projects"]
  have specification := given.withDefault? "specification" {} (by simp)
    (Specification.readsBack d.specification)
  have times := given.withDefault? "document" {} (by simp)
    (Timestamps.readsBack fits.created fits.updated)
  have boundaries := given.withDefault? "boundaries" ∅ (x := d.boundaries) (by simp)
    (readsBack_map fun e _ => Entry.readsBack e.2)
  have components := given.withDefault? "components" ∅ (x := d.components) (by simp)
    (readsBack_map fun _ _ => readsBack_map fun e _ => Entry.readsBack e.2)
  have threats := given.withDefault? "threats" ∅ (x := d.threats) (by simp)
    (readsBack_map fun e _ => Entry.readsBack e.2)
  have dataflow := given.withDefault? "dfd" {} (by simp)
    (Dataflow.readsBack fits.edges)
  have projects := given.withDefault? "projects" ∅ (x := d.projects) (by simp)
    (readsBack_map fun project held => Elements.readsBack (fits.elements project held))
  simp only [fromJson?, record, specification, times, boundaries, components, threats, dataflow,
    projects, Option.bind_eq_bind, Option.bind_some, Option.pure_def]

theorem written_save (fits : d.Fits) :
    ∃ w, Written.ofText? d.save.toList = some w ∧ fromJson? w = some d := by
  obtain ⟨w, text, shown⟩ := Written.ofText?_pretty_newline (plain_toJson fits)
  exact ⟨w, text, readsBack fits w shown⟩

/-- A saved document is loaded as it was. -/
theorem load?_save (fits : d.Fits) : load? d.save = some d := by
  obtain ⟨w, text, read⟩ := written_save fits
  rw [load?, text]
  exact read

def extreme : Document where
  times := ⟨-(bitValues 63 : Int), bitValues 63 - 1⟩
  boundaries := .ofList [("", { name := "\"\\/\x00\x1f\x7f\n", parent := some "" }),
    ("@q\"", { name := "é😀\t", description := "\r\n", references := ["", "\u2028"] })]
  components := .ofList [("@empty", ∅), ("@q\"", .ofList [("", { name := "" })])]
  dataflow := ⟨.ofList [("@a", ∅), ("@b", .ofList [("@c", .ofList [("@d", .ofList
    [("@e", { direction := .oneWay, source := ⟨"", bitValues 64 - 1, "\\"⟩ }),
     ("@f", { direction := .bothWays, label := some "", source := ⟨"f", 0, ""⟩ })])])])]⟩
  projects := .ofList [("", {}), ("p", {
    mitigations := .ofList [("@none", []), ("@x", [⟨"@b", "@c", "@t", "x", [], ⟨"", 7, ""⟩⟩])]
    reviews := .ofList [("@y", [⟨"@b", "@c", "\\u0041", ["r", ""], ⟨"", 10, "\x08\x0c"⟩⟩])] })]

theorem load?_save_extreme : extreme.Fits ∧ load? extreme.save = some extreme := by
  have fits : extreme.Fits :=
    ⟨by decide +kernel, by decide +kernel, by decide +kernel, by decide +kernel⟩
  exact ⟨fits, load?_save fits⟩

end Document

end ThreatModel
