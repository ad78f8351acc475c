import Mathlib.Data.Fintype.Card
import Mathlib.Data.Set.Finite.Basic
import Mathlib.Logic.Relation
import ThreatModel.Proofs.Catalogue.Clusters
import ThreatModel.Proofs.Catalogue.Format

namespace ThreatModel.Catalogue

open SortedMap

/-- Parents lead from the threat to the root, and only past threats of the library. -/
inductive LeadsToRoot (threats : SortedMap String Entry) : String → Prop where
  | top {id : String} {e : Entry} (held : threats.get? id = some e)
      (last : e.parent = some faultPatternRoot) : LeadsToRoot threats id
  | under {id parent : String} {e : Entry} (held : threats.get? id = some e)
      (next : e.parent = some parent) (later : LeadsToRoot threats parent) : LeadsToRoot threats id

/-- All threats are below the root, and the members of the view right below it. -/
structure IsHierarchy (c : Catalogue) (view : Item) (threats : SortedMap String Entry) : Prop where
  rooted : ∀ id, threats.contains id = true → LeadsToRoot threats id
  members : ∀ k ∈ c.categories, hasMember view k = true →
    ∃ e, threats.get? (categoryId k.name) = some e ∧ e.parent = some faultPatternRoot

def Under (c : Catalogue) (view : Item) (id parent : String) : Prop :=
  c.parentOf? view id = some parent ∧ parent ≠ faultPatternRoot

/-- The root is the parent of the members, every other parent has a parent in turn, and no way up
returns to where it started. -/
structure LeadsUp (c : Catalogue) (view : Item) : Prop where
  members : ∀ k ∈ c.categories, hasMember view k = true →
    c.parentOf? view (categoryId k.name) = some faultPatternRoot
  closed : ∀ id parent, c.Under view id parent → (c.parentOf? view parent).isSome = true
  acyclic : ∀ id, ¬ Relation.TransGen (c.Under view) id id

section Ways

variable {c : Catalogue} {view : Item}

theorem Under.contains {id parent : String} (next : c.Under view id parent) :
    (c.clusterThreats view).contains id = true := by
  rw [contains_clusterThreats, next.1]
  rfl

theorem not_transGen_of_leadsToRoot {id : String}
    (leads : LeadsToRoot (c.clusterThreats view) id) :
    ¬ Relation.TransGen (c.Under view) id id := by
  induction leads with
  | @top id e held last =>
    intro cycle
    obtain ⟨other, next, _⟩ := Relation.TransGen.head'_iff.1 cycle
    have parent := next.1
    rw [parentOf?_of_get? held, last] at parent
    exact next.2 (Option.some.inj parent).symm
  | @under id parent e held next later ih =>
    intro cycle
    obtain ⟨other, step, back⟩ := Relation.TransGen.head'_iff.1 cycle
    have same := step.1
    rw [parentOf?_of_get? held, next] at same
    obtain rfl := Option.some.inj same
    exact ih (.tail' back step)

theorem wellFounded_under (acyclic : ∀ id, ¬ Relation.TransGen (c.Under view) id id) :
    WellFounded fun b a : {id // (c.clusterThreats view).contains id = true} =>
      Relation.TransGen (c.Under view) a.1 b.1 := by
  have finite : Finite {id // (c.clusterThreats view).contains id = true} :=
    ((c.clusterThreats view).keys.finite_toSet.subset fun id known => mem_keys.2 known).to_subtype
  have trans : IsTrans {id // (c.clusterThreats view).contains id = true}
      fun b a => Relation.TransGen (c.Under view) a.1 b.1 :=
    ⟨fun _ _ _ first second => second.trans first⟩
  have irrefl : Std.Irrefl fun b a : {id // (c.clusterThreats view).contains id = true} =>
      Relation.TransGen (c.Under view) a.1 b.1 := ⟨fun a => acyclic a.1⟩
  exact Finite.wellFounded_of_trans_of_irrefl _

theorem LeadsUp.rooted (up : c.LeadsUp view) {id : String}
    (known : (c.clusterThreats view).contains id = true) :
    LeadsToRoot (c.clusterThreats view) id := by
  suffices all : ∀ a : {id // (c.clusterThreats view).contains id = true},
      LeadsToRoot (c.clusterThreats view) a.1 from all ⟨id, known⟩
  intro a
  induction a using (wellFounded_under up.acyclic).induction with
  | _ a ih =>
    have some' := a.2
    rw [contains_clusterThreats] at some'
    obtain ⟨parent, next⟩ := Option.isSome_iff_exists.1 some'
    obtain ⟨e, held, same⟩ := exists_of_parentOf? next
    by_cases last : parent = faultPatternRoot
    · exact .top held (last ▸ same)
    · have step : c.Under view a.1 parent := ⟨next, last⟩
      have inside : (c.clusterThreats view).contains parent = true := by
        rw [contains_clusterThreats]
        exact up.closed _ _ step
      exact .under held same (ih ⟨parent, inside⟩ (.single step))

theorem isHierarchy_iff_leadsUp :
    c.IsHierarchy view (c.clusterThreats view) ↔ c.LeadsUp view := by
  constructor
  · intro hierarchy
    refine ⟨fun k listed member => ?_, fun id parent next => ?_, fun id cycle => ?_⟩
    · obtain ⟨e, held, top⟩ := hierarchy.members k listed member
      rw [parentOf?_of_get? held, top]
    · cases hierarchy.rooted id next.contains with
      | top held last =>
        have same := next.1
        rw [parentOf?_of_get? held, last] at same
        exact absurd (Option.some.inj same).symm next.2
      | under held above later =>
        have same := next.1
        rw [parentOf?_of_get? held, above] at same
        obtain rfl := Option.some.inj same
        rw [← contains_clusterThreats]
        cases later with
        | top held' _ => exact contains_iff.2 ⟨_, held'⟩
        | under held' _ _ => exact contains_iff.2 ⟨_, held'⟩
    · obtain ⟨other, next, _⟩ := Relation.TransGen.head'_iff.1 cycle
      exact not_transGen_of_leadsToRoot (hierarchy.rooted id next.contains) cycle
  · intro up
    refine ⟨fun id known => up.rooted known, fun k listed member => ?_⟩
    exact exists_of_parentOf? (up.members k listed member)

end Ways

/-- In a library from a catalogue whose categories have different numbers, each identifier has the
parent that the catalogue says, and this is the root or a category. The threats form a hierarchy
exactly if these parents lead up, whichever names are alike. -/
theorem faultPatternThreats_hierarchy {c : Catalogue} {view : Item}
    (found : c.views.find? (fun v => v.name = faultPatternView) = some view)
    (distinct : (c.categories.map (·.id)).Nodup) :
    ∃ threats, c.faultPatternThreats = .ok threats ∧
      (∀ id, (threats.get? id).map (·.parent) = (c.parentOf? view id).map some) ∧
      (∀ id parent, c.parentOf? view id = some parent → parent = faultPatternRoot ∨
        ∃ t ∈ c.categories, parent = categoryId t.name) ∧
      (c.IsHierarchy view threats ↔ c.LeadsUp view) :=
  ⟨c.clusterThreats view, faultPatternThreats_eq distinct found, map_parent_get?,
    fun _ _ => parentOf?_eq_root_or distinct, isHierarchy_iff_leadsUp⟩

def clusterLink (nature target : String) : Relationship where
  form := "Category"
  nature := nature
  target := target
  views := ["888"]

def clusterView : Item where
  id := "888"
  name := "Software Fault Pattern (SFP) Clusters"
  relationships := [clusterLink "HasMember" "896"]

def taintedInput : Item where
  id := "896"
  name := "SFP Primary Cluster: Tainted Input"

def taintedCommand : Item where
  id := "990"
  name := "SFP Secondary Cluster: Tainted Input to Command"
  relationships := [clusterLink "ChildOf" "896"]

def commandInjection : Item where
  id := "78"
  name := "OS Command Injection"
  relationships := [clusterLink "ChildOf" "990"]

def olderView : Item :=
  { clusterView with relationships := [clusterLink "HasMember" "1", clusterLink "HasMember" "896"] }

def sameNamed : Catalogue where
  weaknesses := [commandInjection, { id := "1004", name := "Sensitive Cookie" }]
  categories := [{ id := "1", name := "Legacy: Tainted Input" }, taintedInput, taintedCommand]
  views := [olderView]

theorem not_transGen_of_height {c : Catalogue} {view : Item} (height : String → Nat)
    (lower : ∀ id parent, c.Under view id parent → height parent < height id) (id : String) :
    ¬ Relation.TransGen (c.Under view) id id := by
  have below : ∀ {a b}, Relation.TransGen (c.Under view) a b → height b < height a := by
    intro a b way
    induction way with
    | single step => exact lower _ _ step
    | tail _ step ih => exact (lower _ _ step).trans ih
  exact fun cycle => Nat.lt_irrefl _ (below cycle)

theorem isHierarchy_sameNamed :
    sameNamed.views.find? (fun v => v.name = faultPatternView) = some olderView ∧
      (sameNamed.categories.map (·.id)).Nodup ∧
      ¬ (sameNamed.categories.map fun k => categoryId k.name).Nodup ∧
      ∃ threats, sameNamed.faultPatternThreats = .ok threats ∧
        sameNamed.IsHierarchy olderView threats ∧
        LeadsToRoot threats "@cwe_78_os_command_injection" := by
  have found : sameNamed.views.find? (fun v => v.name = faultPatternView) = some olderView := rfl
  have distinct : (sameNamed.categories.map (·.id)).Nodup := by decide
  obtain ⟨threats, made, parents, _, shape⟩ := faultPatternThreats_hierarchy found distinct
  have held : threats.entries.map (fun e => (e.1, e.2.parent)) =
      [("@cwe_78_os_command_injection", some "@tainted_input_to_command"),
        ("@tainted_input", some "@sfp"),
        ("@tainted_input_to_command", some "@tainted_input")] := by
    obtain rfl := Except.ok.inj made
    decide +kernel
  have links : ∀ id parent, sameNamed.Under olderView id parent →
      (id = "@cwe_78_os_command_injection" ∧ parent = "@tainted_input_to_command") ∨
        (id = "@tainted_input_to_command" ∧ parent = "@tainted_input") := by
    intro id parent next
    obtain ⟨e, kept, same⟩ := Option.map_eq_some_iff.1 ((parents id).trans (by rw [next.1]; rfl))
    have listed : (id, some parent) ∈ threats.entries.map fun e => (e.1, e.2.parent) :=
      List.mem_map.2 ⟨(id, e), get?_eq_some.1 kept, by rw [same]⟩
    rw [held] at listed
    simp only [List.mem_cons, Prod.mk.injEq, Option.some_inj, List.not_mem_nil, or_false] at listed
    rcases listed with first | ⟨_, last⟩ | second
    · exact .inl first
    · exact absurd last next.2
    · exact .inr second
  have hierarchy : sameNamed.IsHierarchy olderView threats := by
    refine shape.2 ⟨by decide +kernel, fun id parent next => ?_, ?_⟩
    · rcases links id parent next with ⟨_, rfl⟩ | ⟨_, rfl⟩ <;> decide +kernel
    · refine not_transGen_of_height (fun id =>
        if id = "@tainted_input" then 0 else if id = "@tainted_input_to_command" then 1 else 2) ?_
      intro id parent next
      rcases links id parent next with ⟨rfl, rfl⟩ | ⟨rfl, rfl⟩ <;> decide
  have known : threats.contains "@cwe_78_os_command_injection" = true := by
    obtain rfl := Except.ok.inj made
    decide +kernel
  exact ⟨found, distinct, by decide +kernel, threats, made, hierarchy, hierarchy.rooted _ known⟩

/-- The member of the view names its own member as well. -/
def crossLinked : Catalogue where
  weaknesses := [commandInjection]
  categories :=
    [{ taintedInput with relationships := [clusterLink "HasMember" "990"] }, taintedCommand]
  views := [clusterView]

def crossLinkedText : String :=
  "<Weakness_Catalog>
<Views><View ID='888' Name='Software Fault Pattern (SFP) Clusters'><Relationships><Relationship>
<Relationship_Views><Relationship_View_ID>888</Relationship_View_ID></Relationship_Views>
<Relationship_Target_Form>Category</Relationship_Target_Form>
<Relationship_Nature>HasMember</Relationship_Nature>
<Relationship_Target_ID>896</Relationship_Target_ID>
</Relationship></Relationships></View></Views>
<Categories>
<Category ID='896' Name='SFP Primary Cluster: Tainted Input'><Relationships><Relationship>
<Relationship_Views><Relationship_View_ID>888</Relationship_View_ID></Relationship_Views>
<Relationship_Target_Form>Category</Relationship_Target_Form>
<Relationship_Nature>HasMember</Relationship_Nature>
<Relationship_Target_ID>990</Relationship_Target_ID>
</Relationship></Relationships></Category>
<Category ID='990' Name='SFP Secondary Cluster: Tainted Input to Command'>
<Relationships><Relationship>
<Relationship_Views><Relationship_View_ID>888</Relationship_View_ID></Relationship_Views>
<Relationship_Target_Form>Category</Relationship_Target_Form>
<Relationship_Nature>ChildOf</Relationship_Nature>
<Relationship_Target_ID>896</Relationship_Target_ID>
</Relationship></Relationships></Category></Categories>
<Weaknesses><Weakness ID='78' Name='OS Command Injection'><Relationships><Relationship>
<Relationship_Views><Relationship_View_ID>888</Relationship_View_ID></Relationship_Views>
<Relationship_Target_Form>Category</Relationship_Target_Form>
<Relationship_Nature>ChildOf</Relationship_Nature>
<Relationship_Target_ID>990</Relationship_Target_ID>
</Relationship></Relationships></Weakness></Weaknesses></Weakness_Catalog>"

set_option maxRecDepth 10000 in
theorem ofText_crossLinkedText : ofText crossLinkedText = .ok crossLinked := by
  refine ofText_eq_ok rfl (List.cons_ne_nil _ _) ?_
  decide +kernel

theorem not_leadsToRoot_of_closed {threats : SortedMap String Entry} {ids : List String}
    (closed : ∀ id ∈ ids, ∃ parent ∈ ids,
      (threats.get? id).bind (·.parent) = some parent ∧ parent ≠ faultPatternRoot)
    {id : String} (member : id ∈ ids) : ¬ LeadsToRoot threats id := by
  intro leads
  induction leads with
  | top held last =>
    obtain ⟨parent, _, same, other⟩ := closed _ member
    rw [held, Option.bind_some, last] at same
    exact other (Option.some.inj same).symm
  | under held next later ih =>
    obtain ⟨parent, inside, same, _⟩ := closed _ member
    rw [held, Option.bind_some, next] at same
    obtain rfl := Option.some.inj same
    exact ih inside

/-- The member of the view hangs below its own member, and nothing leads to the root. -/
theorem not_isHierarchy_crossLinked :
    ofText crossLinkedText = .ok crossLinked ∧
      crossLinked.views.find? (fun v => v.name = faultPatternView) = some clusterView ∧
      (crossLinked.weaknesses.map (·.id)).Nodup ∧ (crossLinked.categories.map (·.id)).Nodup ∧
      (crossLinked.views.map (·.id)).Nodup ∧
      ∃ threats, crossLinked.faultPatternThreats = .ok threats ∧
        (threats.get? "@tainted_input").bind (·.parent) = some "@tainted_input_to_command" ∧
        (∀ id, threats.contains id = true → ¬ LeadsToRoot threats id) ∧
        ¬ crossLinked.IsHierarchy clusterView threats := by
  have found : crossLinked.views.find? (fun v => v.name = faultPatternView) = some clusterView :=
    rfl
  have distinct : (crossLinked.categories.map (·.id)).Nodup := by decide
  have loose : ∀ id, (crossLinked.clusterThreats clusterView).contains id = true →
      ¬ LeadsToRoot (crossLinked.clusterThreats clusterView) id := by
    intro id known
    refine not_leadsToRoot_of_closed ?_ (mem_keys.2 known)
    decide +kernel
  have known : (crossLinked.clusterThreats clusterView).contains "@tainted_input" = true := by
    decide +kernel
  refine ⟨ofText_crossLinkedText, found, by decide, distinct, by decide,
    crossLinked.clusterThreats clusterView, faultPatternThreats_eq distinct found,
    by decide +kernel, loose, fun hierarchy => ?_⟩
  exact loose _ known (hierarchy.rooted _ known)

end ThreatModel.Catalogue
