import ThreatModel.Document.Validation
import ThreatModel.Proofs.Json.Agreement
import ThreatModel.Schema.Intermediate

namespace ThreatModel

open Json

def Source.clash : Clash := .record [("file", .never), ("line", .never), ("function", .never)]

theorem Source.agree : Agree Source.fromJson? Source.fromJson? Source.clash := by
  refine agree_record rfl fun fs gs fields => ?_
  refine (fields.required? (by simp) agree_asString?).bind fun file => ?_
  refine (fields.required? (by simp) agree_asIndex?).bind fun line => ?_
  refine (fields.required? (by simp) agree_asString?).bind fun function => ?_
  exact .refl _

def Entry.clash : Clash :=
  .record [("name", .never), ("description", .never), ("references", .list .never),
    ("parent", .never)]

theorem Entry.agree : Agree Entry.fromJson? Entry.fromJson? Entry.clash := by
  refine agree_record rfl fun fs gs fields => ?_
  refine (fields.required? (by simp) agree_asString?).bind fun name => ?_
  refine (fields.withDefault? (by simp) agree_asString? _).bind fun description => ?_
  refine (fields.withDefault? (by simp) (agree_asList? agree_asString?) _).bind fun refs => ?_
  refine (fields.withDefault? (by simp) (agree_asOption? agree_asString?) _).bind fun parent => ?_
  exact .refl _

theorem Direction.fromJson?_of_ne_one {σ : Type} [Layered σ] {fields : List (Key × σ)} {v : σ}
    (shape : layer v = .object fields) (other : fields.length ≠ 1) : fromJson? v = none := by
  unfold fromJson?
  rw [shape]
  match fields, other with
  | [], _ => rfl
  | [_], other => exact absurd rfl other
  | _ :: _ :: _, _ => rfl

/-- Fields of one name are several in the text and one in the value. -/
def Direction.clash : Clash := .names

theorem Direction.agree : Agree Direction.fromJson? Direction.fromJson? Direction.clash := by
  intro w v gives
  have same := sameLayer_of_gives gives
  show Follows (Clash.anyNameTwice w) _ _
  unfold Clash.anyNameTwice
  generalize here : layer w = l at same
  generalize there : layer v = m at same
  cases same with
  | @object given fields each =>
    by_cases one : fields.length = 1
    · obtain ⟨f, rfl⟩ := List.length_eq_one_iff.1 one
      obtain ⟨g, given, first, later, rfl⟩ := List.forall₂_cons_right_iff.1 each
      obtain rfl := List.forall₂_nil_right_iff.1 later
      cases first with
      | @intro key name x y text value =>
        have inner := sameLayer_of_gives value
        have lone : layer v = .object [(⟨name.toList, some name⟩, y)] := there
        unfold fromJson?
        rw [here, lone]
        dsimp only
        rw [text]
        generalize layer x = l at inner ⊢
        generalize layer y = m at inner ⊢
        cases inner <;> exact .refl _
    · have refused : fromJson? w = none := fromJson?_of_ne_one here (each.length_eq ▸ one)
      rw [refused]
      by_cases distinct : (fields.map (·.1)).Nodup
      · have size := (SortedMap.perm_ofList distinct).length_eq
        rw [fromJson?_of_ne_one there (by rw [List.length_map, size]; exact one)]
        exact fun x no => nomatch no
      · have twice : ¬ (given.map (·.1.text?)).Nodup := by
          rw [map_text?_eq each]
          exact fun all => distinct all.of_map
        dsimp only
        rw [decide_eq_false twice]
        exact fun x found => rfl
  | _ =>
    unfold fromJson?
    rw [here, there]
    exact .refl _

def Edge.clash : Clash :=
  .record [("type", Direction.clash), ("name", .never), ("source", Source.clash)]

theorem Edge.agree : Agree Edge.fromJson? Edge.fromJson? Edge.clash := by
  refine agree_record rfl fun fs gs fields => ?_
  refine (fields.required? (by simp) Direction.agree).bind fun direction => ?_
  refine (fields.withDefault? (by simp) (agree_asOption? agree_asString?) _).bind fun label => ?_
  refine (fields.required? (by simp) Source.agree).bind fun source => ?_
  exact .refl _

def Dataflow.clash : Clash :=
  let inner := Clash.map Edge.fromJson? Edge.clash
  let outer := Clash.map (asMap? Edge.fromJson?) inner
  .map (asMap? (asMap? (asMap? Edge.fromJson?))) (.map (asMap? (asMap? Edge.fromJson?)) outer)

theorem Dataflow.agree : Agree Dataflow.fromJson? Dataflow.fromJson? Dataflow.clash := by
  intro w v gives
  have tree := agree_asMap? (agree_asMap? (agree_asMap? (agree_asMap? Edge.agree))) w v gives
  exact tree.map _

def Stance.clash (kind : StanceKind) : Clash :=
  .record [("boundary", .never), ("component", .never), ("threat", .never), (kind.word, .never),
    ("refs", .list .never), ("source", Source.clash)]

theorem Stance.agree (kind : StanceKind) :
    Agree (Stance.fromJson? kind) (Stance.fromJson? kind) (Stance.clash kind) := by
  refine agree_record rfl fun fs gs fields => ?_
  refine (fields.required? (by simp) agree_asString?).bind fun boundary => ?_
  refine (fields.required? (by simp) agree_asString?).bind fun component => ?_
  refine (fields.required? (by simp) agree_asString?).bind fun threat => ?_
  refine (fields.required? (by simp) agree_asString?).bind fun text => ?_
  refine (fields.withDefault? (by simp) (agree_asList? agree_asString?) _).bind fun refs => ?_
  refine (fields.required? (by simp) Source.agree).bind fun source => ?_
  exact .refl _

def Review.clash : Clash :=
  .record [("boundary", .never), ("component", .never), ("review", .never),
    ("refs", .list .never), ("source", Source.clash)]

theorem Review.agree : Agree Review.fromJson? Review.fromJson? Review.clash := by
  refine agree_record rfl fun fs gs fields => ?_
  refine (fields.required? (by simp) agree_asString?).bind fun boundary => ?_
  refine (fields.required? (by simp) agree_asString?).bind fun component => ?_
  refine (fields.required? (by simp) agree_asString?).bind fun text => ?_
  refine (fields.withDefault? (by simp) (agree_asList? agree_asString?) _).bind fun refs => ?_
  refine (fields.required? (by simp) Source.agree).bind fun source => ?_
  exact .refl _

def Elements.clash : Clash :=
  let stances (kind : StanceKind) : Clash :=
    .map (asList? (Stance.fromJson? kind)) (.list (Stance.clash kind))
  .record [("mitigations", stances .mitigation), ("exposures", stances .exposure),
    ("acceptances", stances .acceptance), ("transfers", stances .transfer),
    ("reviews", .map (asList? Review.fromJson?) (.list Review.clash))]

theorem Elements.agree : Agree Elements.fromJson? Elements.fromJson? Elements.clash := by
  refine agree_record rfl fun fs gs fields => ?_
  have stances (kind : StanceKind) := agree_asMap? (agree_asList? (Stance.agree kind))
  refine (fields.withDefault? (by simp) (stances .mitigation) _).bind fun mitigations => ?_
  refine (fields.withDefault? (by simp) (stances .exposure) _).bind fun exposures => ?_
  refine (fields.withDefault? (by simp) (stances .acceptance) _).bind fun acceptances => ?_
  refine (fields.withDefault? (by simp) (stances .transfer) _).bind fun transfers => ?_
  refine (fields.withDefault? (by simp) (agree_asMap? (agree_asList? Review.agree)) _).bind ?_
  exact fun reviews => .refl _

def Specification.clash : Clash := .record [("name", .never), ("version", .never)]

theorem Specification.agree :
    Agree Specification.fromJson? Specification.fromJson? Specification.clash := by
  refine agree_record rfl fun fs gs fields => ?_
  refine (fields.required? (by simp) agree_asString?).bind fun name => ?_
  refine (fields.required? (by simp) agree_asString?).bind fun version => ?_
  exact .refl _

def Timestamps.clash : Clash := .record [("created", .never), ("updated", .never)]

theorem Timestamps.agree : Agree Timestamps.fromJson? Timestamps.fromJson? Timestamps.clash := by
  refine agree_record rfl fun fs gs fields => ?_
  refine (fields.required? (by simp) agree_asInt64?).bind fun created => ?_
  refine (fields.required? (by simp) agree_asInt64?).bind fun updated => ?_
  exact .refl _

namespace Document

def clash : Clash :=
  let entries := Clash.map Entry.fromJson? Entry.clash
  .record [("specification", Specification.clash), ("document", Timestamps.clash),
    ("boundaries", entries), ("components", .map (asMap? Entry.fromJson?) entries),
    ("threats", entries), ("dfd", Dataflow.clash),
    ("projects", .map Elements.fromJson? Elements.clash)]

theorem agree : Agree fromJson? fromJson? clash := by
  refine agree_record rfl fun fs gs fields => ?_
  have entries := agree_asMap? Entry.agree
  refine (fields.withDefault? (by simp) Specification.agree _).bind fun specification => ?_
  refine (fields.withDefault? (by simp) Timestamps.agree _).bind fun times => ?_
  refine (fields.withDefault? (by simp) entries _).bind fun boundaries => ?_
  refine (fields.withDefault? (by simp) (agree_asMap? entries) _).bind fun components => ?_
  refine (fields.withDefault? (by simp) entries _).bind fun threats => ?_
  refine (fields.withDefault? (by simp) Dataflow.agree _).bind fun dataflow => ?_
  refine (fields.withDefault? (by simp) (agree_asMap? Elements.agree) _).bind fun projects => ?_
  exact .refl _

theorem problemCount?_eq_zero {against : Json → List Schema.Problem} {level : Nat}
    {text : String} :
    problemCount? against level text = some 0 ↔
      ∃ v d, Json.ofText? text = some v ∧ (Outcome.ofProblems level (against v)).isValid ∧
        fromJson? v = some d ∧ d.referenceIssues = [] := by
  unfold problemCount?
  cases value : Json.ofText? text with
  | none => simp
  | some v =>
    cases document : fromJson? v with
    | none => simp [furtherProblems, document]
    | some d => simp [furtherProblems, document, Outcome.isValid]

def checked? (text : String) : Option Document := (Json.ofText? text).bind fromJson?

theorem load?_of_checked? {text : String} {d : Document} (checked : checked? text = some d) :
    ∃ w, Written.ofText? text.toList = some w ∧
      load? text = if clash w then none else some d := by
  obtain ⟨v, value, document⟩ := Option.bind_eq_some_iff.1 checked
  obtain ⟨w, written, given⟩ := Option.bind_eq_some_iff.1 value
  have straight : load? text = fromJson? w := by rw [load?, written]; rfl
  exact ⟨w, written, straight ▸ agree w v ⟨_, given⟩ d document⟩

/-- What the validation has nothing against is loaded as the document that it checked, whatever the
schema, but for a text that repeats a name and clashes with its value. -/
theorem load?_of_problemCount?_eq_zero {against : Json → List Schema.Problem} {level : Nat}
    {text : String} (clean : problemCount? against level text = some 0) :
    ∃ w d, Written.ofText? text.toList = some w ∧ checked? text = some d ∧
      d.referenceIssues = [] ∧ (load? text = if clash w then none else some d) ∧
      (clash w = true → w.Repeats) := by
  obtain ⟨v, d, value, _, document, referenced⟩ := problemCount?_eq_zero.1 clean
  have checked : checked? text = some d := by rw [checked?, value, Option.bind_some, document]
  obtain ⟨w, written, loaded⟩ := load?_of_checked? checked
  exact ⟨w, d, written, checked, referenced, loaded, clash.repeats w⟩

def shopText (threats : List (String × Json)) : String :=
  (Json.object ([("specification", Specification.toJson {}), ("document", Timestamps.toJson {}),
    ("boundaries", .object [("@web", Entry.toJson { name := "Web" })]),
    ("components", .object [("@web", .object [("@app", Entry.toJson { name := "App" })])])] ++
    threats ++
    [("projects", .object [("shop", Elements.toJson {
      exposures := .ofList [("@forms", [⟨"@web", "@app", "@xss", "forms", [], {}⟩])] })])])).compact

def entryOnce : String :=
  shopText [("threats", .object [("@xss", Entry.toJson { name := "Cross-site scripting" })])]

/-- There are two entries for one threat, of which the last stays. -/
def entryTwice : String :=
  shopText [("threats", .object [("@xss", Entry.toJson { name := "Scripts" }),
    ("@xss", Entry.toJson { name := "Cross-site scripting" })])]

def threatsTwice : String :=
  let threats := ("threats", .object [("@xss", Entry.toJson { name := "Cross-site scripting" })])
  shopText [threats, threats]

theorem load?_entryTwice :
    (problemCount? Validator.intermediate.problems 0 entryOnce = some 0 ∧
      ∃ d, checked? entryOnce = some d ∧ d.referenceIssues = [] ∧ load? entryOnce = some d) ∧
    problemCount? Validator.intermediate.problems 0 entryTwice = some 0 ∧
      ∃ d, checked? entryTwice = some d ∧ d.referenceIssues = [] ∧ load? entryTwice = some d ∧
        (d.threats.get? "@xss").map (·.name) = some "Cross-site scripting" := by
  have loaded : ∀ text, problemCount? Validator.intermediate.problems 0 text = some 0 →
      (Written.ofText? text.toList).map clash.clashes = some false →
      ∃ d, checked? text = some d ∧ d.referenceIssues = [] ∧ load? text = some d := by
    intro text clean apart
    obtain ⟨w, d, written, checked, referenced, loads, _⟩ :=
      load?_of_problemCount?_eq_zero clean
    rw [written, Option.map_some, Option.some_inj] at apart
    rw [apart] at loads
    exact ⟨d, checked, referenced, loads⟩
  have once : problemCount? Validator.intermediate.problems 0 entryOnce = some 0 ∧
      (Written.ofText? entryOnce.toList).map clash.clashes = some false := by
    rw [problemCount?, Json.ofText?, entryOnce, shopText, Json.compact, String.toList_ofList]
    decide +kernel
  have twice : problemCount? Validator.intermediate.problems 0 entryTwice = some 0 ∧
      (Written.ofText? entryTwice.toList).map clash.clashes = some false ∧
      ((load? entryTwice).bind (·.threats.get? "@xss")).map (·.name) =
        some "Cross-site scripting" := by
    rw [problemCount?, load?, Json.ofText?, entryTwice, shopText, Json.compact,
      String.toList_ofList]
    decide +kernel
  obtain ⟨d, checked, referenced, loads⟩ := loaded _ twice.1 twice.2.1
  refine ⟨⟨once.1, loaded _ once.1 once.2⟩, twice.1, d, checked, referenced, loads, ?_⟩
  have last := twice.2.2
  rwa [loads, Option.bind_some] at last

/-- A text without problems that is not loaded. -/
theorem load?_threatsTwice :
    problemCount? Validator.intermediate.problems 0 threatsTwice = some 0 ∧
      load? threatsTwice = none := by
  constructor
  · rw [problemCount?, Json.ofText?, threatsTwice, shopText, Json.compact, String.toList_ofList]
    decide +kernel
  · rw [load?, threatsTwice, shopText, Json.compact, String.toList_ofList]
    decide +kernel

end Document

end ThreatModel
