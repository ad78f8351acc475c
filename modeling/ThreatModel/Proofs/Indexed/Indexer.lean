import ThreatModel.Indexed.Indexer
import ThreatModel.Proofs.Indexed.Numbering
import ThreatModel.Proofs.SortedMap.Lists

namespace ThreatModel

section FirstUse

variable {α : Type} [DecidableEq α]

theorem eraseDups_concat (uses : List α) (a : α) :
    (uses ++ [a]).eraseDups = if a ∈ uses then uses.eraseDups else uses.eraseDups ++ [a] := by
  rw [List.eraseDups_append]
  by_cases used : a ∈ uses
  · simp [used, List.cons_removeAll]
  · simp [used, List.cons_removeAll, List.eraseDups_cons]

theorem idxOf_eraseDups_append {uses : List α} {a : α} (used : a ∈ uses) (more : List α) :
    (uses ++ more).eraseDups.idxOf a = uses.eraseDups.idxOf a := by
  rw [List.eraseDups_append, List.idxOf_append_of_mem (List.mem_eraseDups.2 used)]

end FirstUse

theorem SortedMap.size_ofPositions {ν : Type} (vs : List ν) :
    (SortedMap.ofPositions vs).size = vs.length := by
  simp [SortedMap.size, SortedMap.ofPositions]

theorem SortedMap.insert_ofPositions {ν : Type} (vs : List ν) (v : ν) :
    (SortedMap.ofPositions vs).insert vs.length v = .ofPositions (vs ++ [v]) := by
  refine SortedMap.ext_get? fun i => ?_
  rw [SortedMap.get?_insert, SortedMap.get?_ofPositions, SortedMap.get?_ofPositions]
  by_cases last : i = vs.length
  · subst last
    simp
  · rw [if_neg last]
    by_cases inside : i < vs.length
    · rw [List.getElem?_append_left inside]
    · rw [List.getElem?_eq_none (by omega), List.getElem?_eq_none (by simp; omega)]

namespace IndexedModel

section Registers

variable {κ : Type} [LT κ] [DecidableLT κ] [OrderedKey κ] [DecidableEq κ] {name : κ → Named}
  {r : Register κ} {uses : List κ}

/-- The items in use are numbered in the order of first use. -/
structure Register.Numbers (r : Register κ) (name : κ → Named) (uses : List κ) : Prop where
  numbers : ∀ k, r.numbers.get? k = if k ∈ uses then some (uses.eraseDups.idxOf k) else none
  names : r.names = .ofPositions (uses.eraseDups.map name)

omit [OrderedKey κ] in
theorem Register.numbers_nil : ({} : Register κ).Numbers name [] :=
  ⟨fun k => by simp, rfl⟩

theorem Register.Numbers.size (h : r.Numbers name uses) :
    r.numbers.size = uses.eraseDups.length := by
  have same : r.numbers.keys.Perm uses.eraseDups := by
    refine (List.perm_ext_iff_of_nodup (SortedMap.nodup_keys _) (nodup_eraseDups uses)).2 ?_
    intro k
    show k ∈ r.numbers.keys ↔ _
    rw [SortedMap.mem_keys, SortedMap.contains, h.numbers, List.mem_eraseDups]
    by_cases used : k ∈ uses <;> simp [used]
  rw [← same.length_eq, SortedMap.keys, List.length_map]
  rfl

theorem Register.Numbers.number (h : r.Numbers name uses) (k : κ) :
    (r.number name k).1 = (uses ++ [k]).eraseDups.idxOf k ∧
      (r.number name k).2.Numbers name (uses ++ [k]) := by
  unfold Register.number
  rw [h.numbers, h.size]
  by_cases used : k ∈ uses
  · rw [if_pos used, eraseDups_concat, if_pos used]
    refine ⟨rfl, fun i => ?_, ?_⟩
    · rw [h.numbers, eraseDups_concat, if_pos used]
      by_cases here : i = k
      · simp [here, used]
      · simp [here]
    · rw [h.names, eraseDups_concat, if_pos used]
  · have new : k ∉ uses.eraseDups := fun inside => used (List.mem_eraseDups.1 inside)
    have last : (uses.eraseDups ++ [k]).idxOf k = uses.eraseDups.length := by
      rw [List.idxOf_append, if_neg new, List.idxOf_cons_self, Nat.zero_add]
    rw [if_neg used, eraseDups_concat, if_neg used, last]
    refine ⟨rfl, fun i => ?_, ?_⟩
    · rw [SortedMap.get?_insert, h.numbers, eraseDups_concat, if_neg used]
      by_cases here : i = k
      · simp [here, last]
      · by_cases before : i ∈ uses
        · simp [here, before, List.idxOf_append_of_mem (List.mem_eraseDups.2 before)]
        · simp [here, before]
    · dsimp only
      rw [h.names, eraseDups_concat, if_neg used, List.map_append, List.map_singleton,
        ← SortedMap.insert_ofPositions, List.length_map]

end Registers

variable {d : Document} {x : Indexer} {ps : List Place}

structure Indexer.Numbers (x : Indexer) (d : Document) (ps : List Place) : Prop where
  boundaries : x.boundaries.Numbers (boundaryName d) (ps.map (·.boundary))
  components : x.components.Numbers (componentName d) ps

theorem Indexer.numbers_nil (d : Document) : ({} : Indexer).Numbers d [] :=
  ⟨Register.numbers_nil, Register.numbers_nil⟩

theorem Indexer.Numbers.place (h : x.Numbers d ps) (p : Place) (rest : List Place) :
    let n := Numbering.ofPlaces (ps ++ p :: rest)
    (x.place d p).1 = (n.boundary p, n.component p) ∧ (x.place d p).2.Numbers d (ps ++ [p]) := by
  obtain ⟨boundary, boundaries⟩ := h.boundaries.number p.boundary
  obtain ⟨component, components⟩ := h.components.number p
  have whole : ps ++ p :: rest = ps ++ [p] ++ rest := by simp
  refine ⟨Prod.ext (boundary.trans ?_) (component.trans ?_), ?_, components⟩
  · rw [Numbering.boundary, Numbering.ofPlaces, whole, List.map_append, List.map_append,
      List.map_singleton]
    exact (idxOf_eraseDups_append (by simp) _).symm
  · rw [Numbering.component, Numbering.ofPlaces, whole]
    exact (idxOf_eraseDups_append (by simp) _).symm
  · rw [List.map_append]
    exact boundaries

theorem append_ofPositions {ν : Type} (vs : List ν) (v : ν) :
    append (.ofPositions vs) v = .ofPositions (vs ++ [v]) := by
  rw [append, SortedMap.size_ofPositions, SortedMap.insert_ofPositions]

theorem foldl_addStance {ν : Type} (entry : Nat → Nat → Stance → ν) (xs : List Stance)
    (rest : List Place) {p : Progress ν} {vs : List ν} (h : p.indexer.Numbers d ps)
    (entries : p.entries = .ofPositions vs) :
    let n := Numbering.ofPlaces (ps ++ xs.map stancePlace ++ rest)
    let q := xs.foldl (Progress.addStance d entry) p
    q.indexer.Numbers d (ps ++ xs.map stancePlace) ∧
      q.threats = xs.foldl (fun names s => names.insertNew s.threat s.threat) p.threats ∧
      q.entries = .ofPositions (vs ++ xs.map fun s =>
        entry (n.boundary (stancePlace s)) (n.component (stancePlace s)) s) := by
  induction xs generalizing p ps vs with
  | nil => simpa using ⟨h, entries⟩
  | cons s xs ih =>
    obtain ⟨numbers, later⟩ := h.place (stancePlace s) (xs.map stancePlace ++ rest)
    have whole : ps ++ [stancePlace s] ++ xs.map stancePlace ++ rest =
        ps ++ stancePlace s :: (xs.map stancePlace ++ rest) := by simp
    have step : (p.addStance d entry s).entries = .ofPositions (vs ++ [entry
        ((Numbering.ofPlaces (ps ++ stancePlace s :: (xs.map stancePlace ++ rest))).boundary
          (stancePlace s))
        ((Numbering.ofPlaces (ps ++ stancePlace s :: (xs.map stancePlace ++ rest))).component
          (stancePlace s)) s]) := by
      rw [← append_ofPositions, ← entries]
      show append p.entries (entry (p.indexer.place d (stancePlace s)).1.1
        (p.indexer.place d (stancePlace s)).1.2 s) = _
      rw [numbers]
    have more := ih (p := p.addStance d entry s) later step
    have threats : (p.addStance d entry s).threats = p.threats.insertNew s.threat s.threat := rfl
    rw [whole, threats] at more
    simpa using more

theorem foldl_addConnection (cs : List Connection) {sends : SortedMap Nat SendsEntry}
    {vs : List SendsEntry} (h : x.Numbers d ps) (entries : sends = .ofPositions vs) :
    let places := cs.flatMap fun c => [c.origin, c.target]
    let n := Numbering.ofPlaces (ps ++ places)
    let q := cs.foldl (addConnection d) (x, sends)
    q.1.Numbers d (ps ++ places) ∧ q.2 = .ofPositions (vs ++ cs.flatMap (flows n)) := by
  induction cs generalizing x ps sends vs with
  | nil => simpa using ⟨h, entries⟩
  | cons c cs ih =>
    let places := cs.flatMap fun c => [c.origin, c.target]
    let n := Numbering.ofPlaces (ps ++ c.origin :: c.target :: places)
    obtain ⟨origin, first⟩ := h.place c.origin (c.target :: places)
    obtain ⟨target, second⟩ := first.place c.target places
    have whole : ps ++ [c.origin] ++ [c.target] ++ places =
        ps ++ c.origin :: c.target :: places := by simp
    have inner : ps ++ [c.origin] ++ c.target :: places =
        ps ++ c.origin :: c.target :: places := by simp
    rw [inner] at target
    have step : addConnection d (x, sends) c =
        (((x.place d c.origin).2.place d c.target).2, .ofPositions (vs ++ flows n c)) := by
      unfold addConnection flows
      rw [entries]
      generalize x.place d c.origin = o at origin target ⊢
      obtain ⟨numbers, y⟩ := o
      obtain rfl := origin
      dsimp only at target ⊢
      generalize y.place d c.target = t at target ⊢
      obtain ⟨numbers, z⟩ := t
      obtain rfl := target
      cases c.edge.direction with
      | oneWay =>
        dsimp only
        rw [append_ofPositions]
        rfl
      | bothWays =>
        dsimp only
        rw [append_ofPositions, append_ofPositions, List.append_assoc]
        rfl
    have more := ih second (rfl : SortedMap.ofPositions (vs ++ flows n c) = _)
    rw [List.foldl_cons, step]
    dsimp only at more ⊢
    rw [whole] at more
    simpa using more

/-- The pass gives out the numbers of `ofElements`, and makes the same model of them. -/
theorem convert_eq_ofElements (d : Document) (project : String) (es : Elements) :
    convert d project es = ofElements d project es := by
  let exposures := es.exposures.values.flatten
  let mitigations := es.mitigations.values.flatten
  let edges := d.dataflow.connections.flatMap fun c => [c.origin, c.target]
  let begun : Progress ExposesEntry :=
    { indexer := {}, threats := d.threats.mapValues fun _ t => t.name }
  let exposed := exposures.foldl (Progress.addStance d exposing) begun
  let turned : Progress MitigatesEntry :=
    { indexer := exposed.indexer, threats := exposed.threats }
  let mitigated := mitigations.foldl (Progress.addStance d mitigating) turned
  let joined := d.dataflow.connections.foldl (addConnection d) (mitigated.indexer, ∅)
  obtain ⟨first, declared, exposes⟩ := foldl_addStance exposing exposures
    (mitigations.map stancePlace ++ edges) (Indexer.numbers_nil d)
    (show begun.entries = .ofPositions [] from rfl)
  obtain ⟨second, threats, mitigates⟩ := foldl_addStance mitigating mitigations edges first
    (show turned.entries = .ofPositions [] from rfl)
  obtain ⟨third, sends⟩ := foldl_addConnection d.dataflow.connections second
    (show (∅ : SortedMap Nat SendsEntry) = .ofPositions [] from rfl)
  have used : usedPlaces d es =
      [] ++ exposures.map stancePlace ++ mitigations.map stancePlace ++ edges := by
    rw [usedPlaces, List.map_append, List.nil_append]
  have fromExposures : usedPlaces d es =
      [] ++ exposures.map stancePlace ++ (mitigations.map stancePlace ++ edges) := by
    rw [used, List.append_assoc]
  rw [← fromExposures, List.nil_append] at exposes
  rw [← used, List.nil_append] at mitigates sends
  rw [← used] at third
  have model : ({ exposes := exposed.entries, sends := joined.2, mitigates := mitigated.entries } :
      ProjectModel) = projectModel d es (Numbering.ofPlaces (usedPlaces d es)) := by
    change (ProjectModel.mk exposed.entries joined.2 mitigated.entries) = ProjectModel.mk _ _ _
    exact congr (congrArg₂ _ exposes sends) mitigates
  have names : mitigated.threats = threatNames d es := by
    rw [threatNames, List.foldl_append, ← declared]
    exact threats
  have boundaries : joined.1.boundaries.names = .ofPositions
      ((Numbering.ofPlaces (usedPlaces d es)).boundaries.map (boundaryName d)) :=
    third.boundaries.names
  have components : joined.1.components.names = .ofPositions
      ((Numbering.ofPlaces (usedPlaces d es)).places.map (componentName d)) :=
    third.components.names
  unfold ofElements
  dsimp only
  rw [← model, ← names, ← boundaries, ← components]
  rfl

end IndexedModel

end ThreatModel
