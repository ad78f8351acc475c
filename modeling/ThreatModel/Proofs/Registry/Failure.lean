import ThreatModel.Proofs.Registry.Implicit
import ThreatModel.Proofs.Tag.Quoting

namespace ThreatModel

open SortedMap

namespace Naming

variable {names : List (EntryClass × String)}

theorem entryClass_subject (home name : String) (cls : EntryClass) :
    (cls.subject home name).entryClass = cls := by
  cases cls <;> rfl

theorem given_sublist (home : String) (names : List (EntryClass × String)) :
    ((given home names).map fun a => (a.1.entryClass, a.2)).Sublist names := by
  induction names with
  | nil => exact List.Sublist.refl _
  | cons first names ih =>
    obtain ⟨cls, name⟩ := first
    rw [given]
    split
    · exact List.nil_sublist _
    · split
      · exact ih.cons _
      · rw [List.map_cons, entryClass_subject]
        exact ih.cons_cons _

theorem length_given_lt (home : String) {e : TagError} (stopped : stop? names = some e) :
    (given home names).length < names.length := by
  induction names with
  | nil => cases stopped
  | cons first names ih =>
    obtain ⟨cls, name⟩ := first
    rw [given]
    split
    · exact Nat.zero_lt_succ _
    · next named =>
      rw [stop?, List.find?_cons_of_neg (by simpa using named)] at stopped
      have shorter := ih stopped
      split
      · exact Nat.lt_succ_of_lt shorter
      · exact Nat.succ_lt_succ shorter

end Naming

namespace Statement

theorem nodup_classes (s : Statement) : (s.names.map Prod.fst).Nodup := by
  cases s with
  | naming | describing | connecting => exact List.nodup_nil
  | reviewing => exact (by decide : [EntryClass.boundary, .component].Nodup)
  | standing kind place threat text => cases kind <;> simp [names, Registry.placeComesFirst]

theorem length_names_le (s : Statement) : s.names.length ≤ 3 := by
  cases s with
  | standing kind place threat text => cases kind <;> simp [names, Registry.placeComesFirst]
  | _ => simp [names]

end Statement

namespace Registry

variable {r : Registry}

section Declarations

theorem perform_declare_of_held {t : Subject} {e : Entry} (held : r.held? t = some e)
    (name : String) : r.perform (.declare t name) = r := by
  cases t with
  | boundary id =>
    have same := insertNew_of_contains (contains_iff.2 ⟨e, held⟩) ({ name } : Entry)
    simp only [perform, same]
  | threat id =>
    have same := insertNew_of_contains (contains_iff.2 ⟨e, held⟩) ({ name } : Entry)
    simp only [perform, same]
  | component b id =>
    obtain ⟨home, inside, found⟩ := Option.bind_eq_some_iff.1 held
    have same := insertNew_of_contains (contains_iff.2 ⟨e, found⟩) ({ name } : Entry)
    have kept : r.components.upsert b (fun held => (held.getD ∅).insertNew id { name }) =
        r.components := upsert_of_get? inside same
    simp only [perform, kept]

theorem foldl_perform_declarations {added : List (Subject × String)}
    (distinct : added.Pairwise fun a b => a.1 ≠ b.1) :
    (declarations added).foldl perform r =
      (declarations (added.filter fun a => (r.held? a.1).isNone)).foldl perform r := by
  induction added generalizing r with
  | nil => rfl
  | cons a added ih =>
    obtain ⟨other, distinct⟩ := List.pairwise_cons.1 distinct
    have step (names : List (Subject × String)) : (declarations (a :: names)).foldl perform r =
        (declarations names).foldl perform (r.perform (.declare a.1 a.2)) := rfl
    rw [step, ih distinct]
    cases held : r.held? a.1 with
    | some e => rw [perform_declare_of_held held, List.filter_cons_of_neg (by simp [held])]
    | none =>
      -- no later subject is the one that is new now
      have later : ∀ b ∈ added, (r.perform (.declare a.1 a.2)).held? b.1 = r.held? b.1 := by
        intro b member
        rw [held?_declare, if_neg (other b member).symm, Option.or_none]
      rw [List.filter_cons_of_pos (by simp [held]), step]
      refine congrArg (fun names => (declarations names).foldl perform _) ?_
      exact List.filter_congr fun b member => by rw [later b member]

theorem elements_foldl_declarations (names : List (Subject × String)) (r : Registry) :
    ((declarations names).foldl perform r).elements = r.elements := by
  induction names generalizing r with
  | nil => rfl
  | cons a names ih =>
    have step : (r.perform (.declare a.1 a.2)).elements = r.elements := by
      cases a.1 <;> rfl
    exact (ih _).trans step

theorem dataflow_foldl_declarations (names : List (Subject × String)) (r : Registry) :
    ((declarations names).foldl perform r).dataflow = r.dataflow :=
  dataflow_foldl_perform (fun c member => by simp [declarations] at member) r

theorem held?_foldl_declarations (names : List (Subject × String)) (r : Registry) (t : Subject) :
    ((declarations names).foldl perform r).held? t = (r.held? t).or (namedFor? names t) := by
  rw [held?_foldl_perform, findSome?_declarations]

theorem namedFor?_of_mem {names : List (Subject × String)} {a : Subject × String}
    (distinct : names.Pairwise fun a b => a.1 ≠ b.1) (member : a ∈ names) :
    namedFor? names a.1 = some { name := a.2 } := by
  induction names with
  | nil => cases member
  | cons first names ih =>
    obtain ⟨other, distinct⟩ := List.pairwise_cons.1 distinct
    rw [namedFor?_cons]
    rcases List.mem_cons.1 member with rfl | later
    · rw [if_pos rfl]
      rfl
    · rw [if_neg (other a later).symm, ih distinct later]
      rfl

end Declarations

theorem describeSubject_of_error {text : String} {source : Source} {t : Subject} {e : TagError}
    (failed : (r.describeSubject text source t).2 = some e) :
    (r.describeSubject text source t).1 = r ∧ ∀ cls name, e ≠ .emptyIdentifier cls name := by
  cases t with
  | boundary id | threat id =>
    simp only [describeSubject] at failed ⊢
    split at failed
    · cases failed
      exact ⟨rfl, fun _ _ => by simp⟩
    · cases failed
  | component b id =>
    simp only [describeSubject] at failed ⊢
    split at failed
    · cases failed
      exact ⟨rfl, fun _ _ => by simp⟩
    · split at failed
      · cases failed
        exact ⟨rfl, fun _ _ => by simp⟩
      · cases failed

theorem state_of_error {source : Source} {s : Statement} {e : TagError}
    (failed : (r.state source s).2 = some e) :
    ((r.state source s).1 = r ∧ ∀ cls name, e ≠ .emptyIdentifier cls name) ∨
      (∃ cls name, e = .emptyIdentifier cls name) ∧ Naming.stop? s.names = some e ∧
        (r.state source s).1 =
          (declarations (Naming.given s.home s.names)).foldl perform r := by
  by_cases describes : s.kind = .describes
  · obtain ⟨subject, text, rfl⟩ := Statement.eq_describing describes
    exact .inl (describeSubject_of_error failed)
  · rw [state_eq r source describes] at failed ⊢
    dsimp only at failed ⊢
    cases s with
    | describing => exact absurd rfl describes
    | connecting => cases failed
    | naming subject name =>
      rw [Statement.changes, failed, Statement.registers]
      rw [Statement.failure?] at failed
      split at failed
      · next already =>
        cases failed
        rw [if_pos already]
        exact .inl ⟨rfl, fun _ _ => by simp⟩
      · cases failed
    | reviewing place text | standing kind place threat text =>
      rw [Statement.changes, failed, Option.elim_some, List.append_nil]
      obtain ⟨name, _, same⟩ := Option.map_eq_some_iff.1 failed
      exact .inr ⟨⟨name.1, name.2, same.symm⟩, failed, rfl⟩

/-- The second registry has a few new entries, which have names from the text and nothing else. In
all other respects it is the first. -/
structure OnlyNames (text : List Char) (r s : Registry) (added : List (Subject × String)) :
    Prop where
  few : added.length ≤ 2
  distinct : added.Pairwise fun a b => a.1 ≠ b.1
  new : ∀ a ∈ added, r.held? a.1 = none
  named : ∀ a ∈ added, s.held? a.1 = some { name := a.2 }
  quoted : ∀ a ∈ added, Statement.Quotes text a.2
  others : ∀ t, (∀ a ∈ added, t ≠ a.1) → s.held? t = r.held? t
  same : s = (declarations added).foldl perform r

theorem onlyNames_given {text : List Char} {s : Statement} {e : TagError}
    (stopped : Naming.stop? s.names = some e) (quoted : s.NamesQuote text) :
    ∃ added, OnlyNames text r
      ((declarations (Naming.given s.home s.names)).foldl perform r) added := by
  have sublist := Naming.given_sublist s.home s.names
  have classes : ((Naming.given s.home s.names).map fun a => a.1.entryClass).Nodup := by
    have kept := (sublist.map Prod.fst).nodup s.nodup_classes
    rwa [List.map_map] at kept
  have distinct : (Naming.given s.home s.names).Pairwise fun a b => a.1 ≠ b.1 :=
    (List.pairwise_map.1 classes).imp fun differ same => differ (congrArg _ same)
  have short := Naming.length_given_lt s.home stopped
  have parts : ∀ a ∈ Naming.given s.home s.names, Statement.Quotes text a.2 := fun a member =>
    quoted _ (sublist.subset (List.mem_map_of_mem member))
  rw [foldl_perform_declarations distinct]
  generalize Naming.given s.home s.names = given at distinct short parts
  have kept := List.filter_sublist (p := fun a => (r.held? a.1).isNone) (l := given)
  have new : ∀ a ∈ given.filter fun a => (r.held? a.1).isNone, r.held? a.1 = none :=
    fun a member => Option.isNone_iff_eq_none.1 (List.mem_filter.1 member).2
  have apart := distinct.sublist kept
  refine ⟨_, ?_, apart, new, ?_, fun a member => parts a (kept.subset member), ?_, rfl⟩
  · have bound := s.length_names_le
    have fewer := kept.length_le
    omega
  · intro a member
    rw [held?_foldl_declarations, new a member, Option.none_or, namedFor?_of_mem apart member]
  · intro t other
    have none' : namedFor? (given.filter fun a => (r.held? a.1).isNone) t = none := by
      refine Option.not_isSome_iff_eq_none.1 fun named => ?_
      obtain ⟨name, member⟩ := isSome_namedFor?.1 named
      exact other _ member rfl
    rw [held?_foldl_declarations, none', Option.or_none]

/-- What a tag that fails leaves: the registry as it was, or with new entries that have names. -/
theorem apply_failure {tag : Tag} {e : TagError} (failed : (r.apply tag).2 = some e) :
    (r.apply tag).1.elements = r.elements ∧ (r.apply tag).1.dataflow = r.dataflow ∧
    (r.apply tag).1.created = r.created ∧ (r.apply tag).1.updated = r.updated ∧
    (∀ t entry, r.held? t = some entry → (r.apply tag).1.held? t = some entry) ∧
    ((∀ cls name, e ≠ .emptyIdentifier cls name) → (r.apply tag).1 = r) ∧
    (∀ cls name, e = .emptyIdentifier cls name →
      ∃ added, OnlyNames tag.text.toList r (r.apply tag).1 added) := by
  unfold apply at failed ⊢
  cases read : Statement.ofText? tag.kind tag.text with
  | none =>
    rw [read] at failed
    cases failed
    exact ⟨rfl, rfl, rfl, rfl, fun _ _ held => held, fun _ => rfl, fun _ _ same => by cases same⟩
  | some s =>
    rw [read] at failed
    dsimp only at failed ⊢
    rcases state_of_error failed with ⟨same, other⟩ | ⟨⟨cls, name, rfl⟩, stopped, left⟩
    · rw [same]
      exact ⟨rfl, rfl, rfl, rfl, fun _ _ held => held, fun _ => rfl,
        fun cls name empty => absurd empty (other cls name)⟩
    · rw [left]
      have times := times_foldl_perform (declarations (Naming.given s.home s.names)) r
      exact ⟨elements_foldl_declarations _ r, dataflow_foldl_declarations _ r, times.1, times.2,
        fun t _ held => keeps_of_or (held?_foldl_declarations _ r t) held,
        fun other => absurd rfl (other cls name),
        fun _ _ _ => onlyNames_given stopped (Statement.quotes_of_mem_names read)⟩

def unnamedThreat : Tag where
  kind := .exposes
  text := "@exposes Web:App to ?? with nothing"
  source := { line := 3 }

theorem apply_failure_unnamedThreat :
    let r : Registry := { boundaries := .insert ∅ "@web" website }
    (r.apply unnamedThreat).2 = some (.emptyIdentifier .threat "??") ∧
    (r.apply unnamedThreat).1.elements = r.elements ∧
    (r.apply unnamedThreat).1.held? (.boundary "@web") = some website ∧
    (r.apply unnamedThreat).1.held? (.component "@web" "@app") = some { name := "App" } ∧
    ∃ added, OnlyNames unnamedThreat.text.toList r (r.apply unnamedThreat).1 added := by
  intro r
  have failed : (r.apply unnamedThreat).2 = some (.emptyIdentifier .threat "??") := by
    decide +kernel
  obtain ⟨elements, _, _, _, kept, _, only⟩ := apply_failure failed
  exact ⟨failed, elements, kept (.boundary "@web") website (by decide +kernel), by decide +kernel,
    only _ _ rfl⟩

end Registry

end ThreatModel
