import ThreatModel.Proofs.Registry.Registrations

namespace ThreatModel

theorem Statement.eq_naming {s : Statement} (h : s.kind = .aliases) :
    ∃ subject name, s = .naming subject name := by
  cases s with
  | naming subject name => exact ⟨subject, name, rfl⟩
  | describing => cases h
  | connecting => cases h
  | reviewing => cases h
  | standing kind => cases kind <;> cases h

def Statement.alias? (t : Subject) : Statement → Option String
  | naming subject name => if t = subject then some name else none
  | describing _ _ | connecting _ _ _ _ | reviewing _ _ | standing _ _ _ _ => none

namespace Tag

def alias? (tag : Tag) (t : Subject) : Option String :=
  (Statement.ofText? tag.kind tag.text).bind (Statement.alias? t)

theorem alias?_eq_none {tag : Tag} (other : tag.kind ≠ .aliases) (t : Subject) :
    tag.alias? t = none := by
  unfold alias?
  cases read : Statement.ofText? tag.kind tag.text with
  | none => rfl
  | some s =>
    have kind := Statement.kind_of_ofText? read
    cases s with
    | naming subject name => exact absurd kind.symm other
    | describing | connecting | reviewing | standing => rfl

theorem description?_eq_none {tag : Tag} (other : tag.kind ≠ .describes) (t : Subject) :
    tag.description? t = none := by
  unfold description?
  cases read : Statement.ofText? tag.kind tag.text with
  | none => rfl
  | some s =>
    have kind := Statement.kind_of_ofText? read
    exact Statement.description?_eq_none (fun describes => other (kind.symm.trans describes)) t

theorem registers_of_describes {tag : Tag} (describes : tag.kind = .describes) :
    tag.registers = [] := by
  unfold registers
  cases read : Statement.ofText? tag.kind tag.text with
  | none => rfl
  | some s =>
    have kind := Statement.kind_of_ofText? read
    obtain ⟨subject, text, rfl⟩ := Statement.eq_describing (kind.trans describes)
    rfl

end Tag

namespace Registry

/-- The name that the tag gives to the subject as an alias, if it does not fail. Whether it fails is
the same in every registry. -/
def aliased? (r : Registry) (t : Subject) (tag : Tag) : Option String :=
  if (r.apply tag).2 = none then tag.alias? t else none

theorem namedFor?_of_aliases (r : Registry) {tag : Tag} (aliases : tag.kind = .aliases)
    (t : Subject) :
    namedFor? tag.registers t = (r.aliased? t tag).map fun name => { name } := by
  unfold aliased? apply Tag.registers Tag.alias?
  cases read : Statement.ofText? tag.kind tag.text with
  | none => rfl
  | some s =>
    have kind := Statement.kind_of_ofText? read
    obtain ⟨subject, name, rfl⟩ := Statement.eq_naming (kind.trans aliases)
    have applied : r.state tag.source (.naming subject name) = r.nameSubject name subject := rfl
    simp only [Option.elim_some, Option.bind_some, Statement.registers, Statement.alias?, applied,
      nameSubject_eq]
    cases Identifier.isIdentifier name with
    | true => rfl
    | false =>
      simp only [Bool.false_eq_true, if_false, if_true, namedFor?_cons]
      split <;> rfl

theorem findSome?_namedFor?_aliases (r : Registry) (tags : List Tag) (t : Subject) :
    ((tags.filter fun tag => tag.kind.rank = 0).findSome? fun tag => namedFor? tag.registers t) =
      (tags.findSome? (r.aliased? t)).map fun name => { name } := by
  induction tags with
  | nil => rfl
  | cons tag tags ih =>
    by_cases aliases : tag.kind = .aliases
    · have first : tag.kind.rank = 0 := by rw [aliases]; rfl
      rw [List.filter_cons_of_pos (by simpa using first), List.findSome?_cons, List.findSome?_cons,
        namedFor?_of_aliases r aliases, ih]
      cases r.aliased? t tag <;> rfl
    · have later : tag.kind.rank ≠ 0 := by
        cases kind : tag.kind <;> simp_all [TagKind.rank]
      have silent : r.aliased? t tag = none := by
        rw [aliased?, Tag.alias?_eq_none aliases, ite_self]
      rw [List.filter_cons_of_neg (by simpa using later), List.findSome?_cons, silent, ih]

theorem held?_applyEach (r : Registry) {tags : List Tag}
    (others : ∀ tag ∈ tags, tag.kind ≠ .describes) (t : Subject) :
    (r.applyEach tags).1.held? t =
      (r.held? t).or (tags.findSome? fun tag => namedFor? tag.registers t) := by
  induction tags generalizing r with
  | nil => exact Option.or_none.symm
  | cons tag tags ih =>
    have other := others tag List.mem_cons_self
    have later := ih (r.apply tag).1 fun tag member => others tag (List.mem_cons_of_mem _ member)
    have first := held?_apply r tag t
    rw [Tag.description?_eq_none other] at first
    rw [applyEach]
    refine later.trans ?_
    rw [first.trans Option.map_id', Option.or_assoc, List.findSome?_cons]
    cases namedFor? tag.registers t <;> rfl

theorem held?_applyEach_describes (r : Registry) {tags : List Tag}
    (describes : ∀ tag ∈ tags, tag.kind = .describes) (t : Subject) :
    (r.applyEach tags).1.held? t = (r.held? t).map fun e =>
      { e with description :=
          (tags.filterMap (·.description? t)).getLast?.getD e.description } := by
  induction tags generalizing r with
  | nil => exact Option.map_id'.symm
  | cons tag tags ih =>
    have later := ih (r.apply tag).1 fun tag member => describes tag (List.mem_cons_of_mem _ member)
    have nothing : namedFor? tag.registers t = none := by
      rw [Tag.registers_of_describes (describes tag List.mem_cons_self)]
      rfl
    rw [applyEach]
    refine later.trans ?_
    rw [held?_apply, nothing, Option.or_none, Option.map_map]
    congr 1
    funext e
    cases said : tag.description? t with
    | none => simp [said]
    | some text => simp [said, List.getLast?_cons]

theorem held?_applyAll (r : Registry) (tags : List Tag) (t : Subject) :
    (r.applyAll tags).1.held? t =
      ((r.held? t).or (((tags.findSome? (r.aliased? t)).or
        ((tags.filter fun tag => tag.kind.rank = 1).findSome? (·.registers.lookup t))).map
          fun name => { name })).map fun e =>
        { e with description :=
            (tags.filterMap (·.description? t)).getLast?.getD e.description } := by
  have others : ∀ tag ∈ tags.filter (fun tag => tag.kind.rank = 0) ++
      tags.filter (fun tag => tag.kind.rank = 1), tag.kind ≠ .describes := by
    intro tag member describes
    simp [describes, TagKind.rank] at member
  have describes : ∀ tag ∈ tags.filter (fun tag => tag.kind.rank = 2), tag.kind = .describes := by
    intro tag member
    have rank := of_decide_eq_true (List.mem_filter.1 member).2
    exact TagKind.eq_describes_of_rank rank.ge
  have texts : (tags.filter fun tag => tag.kind.rank = 2).filterMap (·.description? t) =
      tags.filterMap (·.description? t) := by
    rw [List.filterMap_filter]
    congr 1
    funext tag
    split
    · rfl
    · rename_i rank
      refine (Tag.description?_eq_none (fun describes => rank ?_) t).symm
      rw [describes]
      rfl
  have implied : ((tags.filter fun tag => tag.kind.rank = 1).findSome? fun tag =>
      namedFor? tag.registers t) = ((tags.filter fun tag => tag.kind.rank = 1).findSome?
        (·.registers.lookup t)).map fun name => { name } := List.map_findSome?.symm
  unfold applyAll
  rw [inRankOrder_eq_filters, applyEach_append]
  dsimp only
  rw [held?_applyEach_describes _ describes, texts, held?_applyEach r others,
    List.findSome?_append, findSome?_namedFor?_aliases r, implied, ← Option.map_or]

theorem isSome_held?_applyEach (r : Registry) (tags : List Tag) (t : Subject) :
    ((r.applyEach tags).1.held? t).isSome = true ↔ (r.held? t).isSome = true ∨
      ∃ tag ∈ tags, (namedFor? tag.registers t).isSome = true := by
  induction tags generalizing r with
  | nil => simp [applyEach]
  | cons tag tags ih =>
    rw [applyEach]
    refine (ih (r.apply tag).1).trans ?_
    rw [held?_apply, Option.isSome_map, Option.isSome_or]
    simp [or_assoc]

theorem error_describeSubject_eq_none (r : Registry) (text : String) (source : Source)
    (subject : Subject) :
    (r.describeSubject text source subject).2 = none ↔ (r.held? subject).isSome = true := by
  cases subject with
  | boundary id =>
    simp only [describeSubject, describeIn, held?]
    cases r.boundaries.get? id <;> simp
  | threat id =>
    simp only [describeSubject, describeIn, held?]
    cases r.threats.get? id <;> simp
  | component b id =>
    simp only [describeSubject, describeIn, held?]
    cases r.components.get? b with
    | none => simp
    | some held => cases known : held.get? id <;> simp [known]

theorem isSome_namedFor? {names : List (Subject × String)} {t : Subject} :
    (namedFor? names t).isSome = true ↔ ∃ name, (t, name) ∈ names := by
  induction names with
  | nil => simp [namedFor?]
  | cons first names ih =>
    obtain ⟨s, name⟩ := first
    rw [namedFor?_cons, Option.isSome_or, Bool.or_eq_true, ih]
    by_cases here : t = s
    · subst here
      simp
    · simp [here]

/-- When a description has its turn, all that the batch registers is there. -/
theorem isSome_held?_before (r : Registry) {tags before after : List Tag} {tag : Tag}
    (order : inRankOrder tags = before ++ tag :: after) (describes : tag.kind = .describes)
    (t : Subject) :
    ((r.applyEach before).1.held? t).isSome = true ↔ (r.held? t).isSome = true ∨
      ∃ other ∈ tags, ∃ name, (t, name) ∈ other.registers := by
  have sorted := sorted_inRankOrder tags
  rw [order] at sorted
  have last : ∀ other ∈ tag :: after, other.kind = .describes := by
    intro other member
    rcases List.mem_cons.1 member with rfl | member
    · exact describes
    · have rank := List.rel_of_pairwise_cons (List.pairwise_append.1 sorted).2.1 member
      rw [describes] at rank
      exact TagKind.eq_describes_of_rank rank
  rw [isSome_held?_applyEach]
  simp only [isSome_namedFor?]
  refine or_congr_right ⟨?_, ?_⟩
  · intro h
    obtain ⟨other, member, registered⟩ := h
    have ordered : other ∈ inRankOrder tags := order ▸ List.mem_append_left _ member
    exact ⟨other, mem_inRankOrder.1 ordered, registered⟩
  · intro h
    obtain ⟨other, member, name, registered⟩ := h
    have ordered : other ∈ before ++ tag :: after := order ▸ mem_inRankOrder.2 member
    rcases List.mem_append.1 ordered with early | late
    · exact ⟨other, early, name, registered⟩
    · rw [Tag.registers_of_describes (last other late)] at registered
      cases registered

/-- A new entry has the first name that an alias gives it, every entry has its last description, and
a description fails exactly if no entry is there and none is registered by any tag. -/
theorem applyAll_precedence (r : Registry) (tags : List Tag) :
    (∀ t name, r.held? t = none → tags.findSome? (r.aliased? t) = some name →
      ∃ e, (r.applyAll tags).1.held? t = some e ∧ e.name = name) ∧
    (∀ t e, (r.applyAll tags).1.held? t = some e →
      e.description = (tags.filterMap (·.description? t)).getLast?.getD
        ((r.held? t).elim "" Entry.description)) ∧
    ∀ before tag after t text, inRankOrder tags = before ++ tag :: after →
      Statement.ofText? tag.kind tag.text = some (.describing t text) →
      (r.applyAll tags).2 = (r.applyEach before).2 ++
        (((r.applyEach before).1.apply tag).2.toList ++
          (((r.applyEach before).1.apply tag).1.applyEach after).2) ∧
      (((r.applyEach before).1.apply tag).2 ≠ none ↔
        r.held? t = none ∧ ∀ other ∈ tags, ∀ name, (t, name) ∉ other.registers) := by
  refine ⟨?_, ?_, ?_⟩
  · intro t name absent first
    rw [held?_applyAll, absent, first]
    exact ⟨_, rfl, rfl⟩
  · intro t e held
    rw [held?_applyAll, Option.map_eq_some_iff] at held
    obtain ⟨e, found, rfl⟩ := held
    have before : e.description = (r.held? t).elim "" Entry.description := by
      cases old : r.held? t with
      | some e' =>
        rw [old, Option.some_or] at found
        rw [Option.some.inj found]
        rfl
      | none =>
        rw [old, Option.none_or, Option.map_eq_some_iff] at found
        obtain ⟨name, _, rfl⟩ := found
        rfl
    rw [← before]
  · intro before tag after t text order read
    have describes : tag.kind = .describes := (Statement.kind_of_ofText? read).symm
    have errors : (r.applyAll tags).2 = (r.applyEach (before ++ tag :: after)).2 := by
      rw [← order]
      rfl
    have applied (s : Registry) : s.apply tag = s.describeSubject text tag.source t := by
      rw [apply, read]
      rfl
    refine ⟨?_, ?_⟩
    · rw [errors, applyEach_append]
      rfl
    · rw [applied, ne_eq, error_describeSubject_eq_none, isSome_held?_before r order describes,
        not_or]
      simp

def portalBatch : List Tag :=
  [⟨.describes, "@describe boundary @web as a first text", { line := 1 }⟩,
   ⟨.reviews, "@review Ops:-- who is on duty?", { line := 2 }⟩,
   ⟨.exposes, "@exposes Web:App to XSS with raw output", { line := 3 }⟩,
   ⟨.describes, "@describe boundary @ops as those on duty", { line := 4 }⟩,
   ⟨.describes, "@describe threat @leak as unknown here", { line := 5 }⟩,
   ⟨.aliases, "@alias boundary @web to Web shop", { line := 6 }⟩,
   ⟨.aliases, "@alias boundary @web to Portal", { line := 7 }⟩,
   ⟨.describes, "@describe boundary @web as a last text", { line := 8 }⟩]

theorem applyAll_portalBatch :
    (∃ e, (({} : Registry).applyAll portalBatch).1.held? (.boundary "@web") = some e ∧
      e.name = "Web shop" ∧ e.description = "a last text") ∧
    (∃ before after, inRankOrder portalBatch = before ++ portalBatch[3] :: after ∧
      ((({} : Registry).applyEach before).1.apply portalBatch[3]).2 = none) ∧
    ∃ before after, inRankOrder portalBatch = before ++ portalBatch[4] :: after ∧
      ((({} : Registry).applyEach before).1.apply portalBatch[4]).2 ≠ none := by
  obtain ⟨named, described, fails⟩ := applyAll_precedence {} portalBatch
  have order : inRankOrder portalBatch =
      [portalBatch[5], portalBatch[6], portalBatch[1], portalBatch[2], portalBatch[0],
        portalBatch[3], portalBatch[4], portalBatch[7]] := by
    rw [inRankOrder_eq_filters]
    rfl
  refine ⟨?_, ?_, ?_⟩
  · obtain ⟨e, held, name⟩ := named (.boundary "@web") "Web shop" rfl (by decide +kernel)
    have text := described _ e held
    refine ⟨e, held, name, text.trans ?_⟩
    decide +kernel
  · have read : Statement.ofText? portalBatch[3].kind portalBatch[3].text =
        some (.describing (.boundary "@ops") "those on duty") := by decide +kernel
    have turn : inRankOrder portalBatch =
        [portalBatch[5], portalBatch[6], portalBatch[1], portalBatch[2], portalBatch[0]] ++
          portalBatch[3] :: [portalBatch[4], portalBatch[7]] := order
    have registered : (.boundary "@ops", "Ops") ∈ portalBatch[1].registers := by decide +kernel
    refine ⟨_, _, turn, ?_⟩
    by_contra failed
    obtain ⟨_, nothing⟩ := (fails _ _ _ _ _ turn read).2.1 failed
    exact nothing portalBatch[1] (by decide) "Ops" registered
  · have read : Statement.ofText? portalBatch[4].kind portalBatch[4].text =
        some (.describing (.threat "@leak") "unknown here") := by decide +kernel
    have absent : ∀ other ∈ portalBatch, Subject.threat "@leak" ∉ other.registers.map Prod.fst := by
      decide +kernel
    have turn : inRankOrder portalBatch =
        [portalBatch[5], portalBatch[6], portalBatch[1], portalBatch[2], portalBatch[0],
          portalBatch[3]] ++ portalBatch[4] :: [portalBatch[7]] := order
    refine ⟨_, _, turn, (fails _ _ _ _ _ turn read).2.2 ⟨rfl, ?_⟩⟩
    intro other member name registered
    exact absent other member (List.mem_map.2 ⟨_, registered, rfl⟩)

end Registry

end ThreatModel
