import Mathlib.Data.Fintype.Card
import Mathlib.Data.Set.Finite.List
import ThreatModel.Proofs.Document.Outline

namespace ThreatModel

open SortedMap Relation

namespace Document

variable {d : Document} {id parent : String}

def OnCycle (d : Document) (id : String) : Prop := TransGen d.HasParent id id

/-- Parents lead from the threat into a cycle. -/
def Caught (d : Document) (id : String) : Prop := ∃ a, ReflTransGen d.HasParent id a ∧ d.OnCycle a

/-- Of the identifiers on the cycle of the threat, its own is the lowest. -/
def LowestOfCycle (d : Document) (id : String) : Prop :=
  d.OnCycle id ∧ ∀ a, TransGen d.HasParent id a → TransGen d.HasParent a id → ¬ a < id

def PrecedesAncestors (d : Document) (id : String) : Prop :=
  ∀ a, TransGen d.HasParent id a → ¬ a < id

def ListedAtTop (d : Document) (id : String) : Prop :=
  ∃ node ∈ d.outline, node.id = id ∧ node.depth = 0

/-- The threat is listed one level below its parent, and nothing between them leaves the subtree of
the parent. -/
def ListedBelow (d : Document) (parent id : String) : Prop :=
  ∃ front above between node after, d.outline = front ++ above :: between ++ node :: after ∧
    above.id = parent ∧ node.id = id ∧ node.depth = above.depth + 1 ∧
    ∀ m ∈ between, above.depth < m.depth

theorem hasParent_rightUnique : Relator.RightUnique d.HasParent :=
  fun _ _ _ first second => first.unique second

theorem contains_of_transGen {a b : String} (chain : TransGen d.HasParent a b) :
    d.threats.contains a = true := by
  obtain ⟨_, below, _⟩ := TransGen.head'_iff.1 chain
  exact below.contains

theorem reflTransGen_of_onCycle {a b : String} (cycle : d.OnCycle a)
    (chain : ReflTransGen d.HasParent a b) : ReflTransGen d.HasParent b a := by
  induction chain with
  | refl => exact .refl
  | @tail b c _ below back =>
    obtain ⟨next, below', rest⟩ := TransGen.head'_iff.1 (cycle.trans_right back)
    rw [below.unique below']
    exact rest

theorem contains_of_caught {a : String} (caught : d.Caught id)
    (chain : ReflTransGen d.HasParent id a) : d.threats.contains a = true := by
  obtain ⟨c, reaches, cycle⟩ := caught
  have back : ReflTransGen d.HasParent a c := by
    rcases ReflTransGen.total_of_right_unique hasParent_rightUnique chain reaches with first | last
    · exact first
    · exact reflTransGen_of_onCycle cycle last
  exact contains_of_transGen (cycle.trans_right back)

theorem caught_of_contains
    (endless : ∀ a, ReflTransGen d.HasParent id a → d.threats.contains a = true) : d.Caught id := by
  -- Without a cycle the ancestors are well-founded, but the highest one has a parent, too.
  by_contra free
  let Above := {a : String // ReflTransGen d.HasParent id a}
  have finite : Finite Above := by
    refine Set.Finite.subset (List.finite_toSet d.threats.keys) fun a chain => ?_
    exact mem_keys.2 (endless a chain)
  let higher : Above → Above → Prop := fun a b => TransGen d.HasParent b.1 a.1
  have transitive : IsTrans Above higher := ⟨fun _ _ _ first second => second.trans first⟩
  have irreflexive : Std.Irrefl higher := ⟨fun a cycle => free ⟨a.1, a.2, cycle⟩⟩
  have founded : WellFounded higher := Finite.wellFounded_of_trans_of_irrefl higher
  obtain ⟨top, _, highest⟩ := founded.has_min Set.univ ⟨⟨id, .refl⟩, trivial⟩
  obtain ⟨next, below⟩ := exists_hasParent (endless top.1 top.2)
  exact highest ⟨next, top.2.tail below⟩ trivial (.single below)

theorem exists_root_of_end {a : String} (known : d.threats.contains id = true)
    (chain : ReflTransGen d.HasParent id a) (missing : d.threats.contains a = false) :
    ∃ root ∈ outlineRoots d d.threatTree, ReflTransGen d.HasParent id root := by
  rcases ReflTransGen.cases_tail chain with rfl | ⟨c, before, below⟩
  · rw [known] at missing
    cases missing
  · by_cases none : a = ""
    · subst none
      exact ⟨c, mem_outlineRoots.2 (.inl below), before⟩
    · exact ⟨a, mem_outlineRoots.2 (.inr ⟨none, missing, c, below⟩), chain⟩

theorem exists_end_of_root (named : d.threats.contains "" = false) {root : String}
    (member : root ∈ outlineRoots d d.threatTree) :
    ∃ a, ReflTransGen d.HasParent root a ∧ d.threats.contains a = false := by
  rcases mem_outlineRoots.1 member with parentless | ⟨_, missing, _⟩
  · exact ⟨"", .single parentless, named⟩
  · exact ⟨root, .refl, missing⟩

/-- A threat is caught in a cycle exactly if no root leads to it. -/
theorem caught_iff_rootless (named : d.threats.contains "" = false)
    (known : d.threats.contains id = true) :
    d.Caught id ↔ ∀ root ∈ outlineRoots d d.threatTree, ¬ ReflTransGen d.HasParent id root := by
  constructor
  · intro caught root member chain
    obtain ⟨a, rest, missing⟩ := exists_end_of_root named member
    rw [contains_of_caught caught (chain.trans rest)] at missing
    cases missing
  · intro rootless
    apply caught_of_contains
    intro a chain
    by_contra missing
    obtain ⟨root, member, reaches⟩ :=
      exists_root_of_end known chain (Bool.eq_false_iff.2 missing)
    exact rootless root member reaches

theorem mem_starts_of_top {starts : List String} {node : OutlineNode}
    (member : node ∈ d.listing starts) (top : node.depth = 0) : node.id ∈ starts := by
  have tops : (∀ node ∈ d.listing starts, node.depth = 0 → node.id ∈ starts) ∧
      ∀ item ∈ ([] : List (Nat × String)), item.1 = 0 → item.2 ∈ starts := by
    refine outlineFrom_induction (motive := fun todo listed =>
      (∀ node ∈ listed, node.depth = 0 → node.id ∈ starts) ∧
        ∀ item ∈ todo, item.1 = 0 → item.2 ∈ starts) ?_ ?_ ?_
    · intro depth id rest listed _ inv
      exact ⟨inv.1, fun item later => inv.2 item (List.mem_cons_of_mem _ later)⟩
    · intro depth id rest listed _ inv
      constructor
      · intro node member
        rcases List.mem_append.1 member with before | last
        · exact inv.1 node before
        · rw [List.mem_singleton.1 last]
          exact inv.2 (depth, id) List.mem_cons_self
      · intro item member zero
        rcases List.mem_append.1 member with below | later
        · obtain ⟨_, _, rfl⟩ := List.mem_map.1 below
          cases zero
        · exact inv.2 item (List.mem_cons_of_mem _ later) zero
    · refine ⟨by simp, ?_⟩
      intro item member _
      obtain ⟨start, inside, rfl⟩ := List.mem_map.1 member
      exact inside
  exact tops.1 node member top

theorem eq_of_mem_listing {starts : List String} {node other : OutlineNode}
    (first : node ∈ d.listing starts) (second : other ∈ d.listing starts)
    (same : node.id = other.id) : node = other :=
  List.inj_on_of_nodup_map (nodup_listing starts) first second same

theorem listing_append (early late : List String) :
    d.listing (early ++ late) =
      outlineFrom d d.threatTree (late.map ((0, ·))) (d.listing early) := by
  rw [listing, List.map_append, outlineFrom_append]
  rfl

theorem top_iff {early late : List String} (new : id ∉ early) :
    (∃ node ∈ d.listing (early ++ id :: late), node.id = id ∧ node.depth = 0) ↔
      isListed (d.listing early) id = false := by
  have whole := listing_append (d := d) early (id :: late)
  have begins := prefix_outlineFrom (d := d) d.threatTree ((id :: late).map ((0, ·)))
    (d.listing early)
  rw [← whole] at begins
  constructor
  · intro atTop
    obtain ⟨node, member, rfl, top⟩ := atTop
    by_contra listed
    have known := isListed_iff.1 (Bool.eq_true_of_not_eq_false listed)
    obtain ⟨other, early', same⟩ := List.mem_map.1 known
    have once := eq_of_mem_listing member (begins.subset early') same.symm
    subst once
    exact new (mem_starts_of_top early' top)
  · intro fresh
    have entered : d.listing (early ++ id :: late) =
        outlineFrom d d.threatTree ((children d.threatTree id).map ((1, ·)) ++ late.map ((0, ·)))
          (d.listing early ++ [d.outlineNode 0 id]) := by
      rw [whole, List.map_cons, outlineFrom, fresh]
      rfl
    have kept := prefix_outlineFrom (d := d) d.threatTree
      ((children d.threatTree id).map ((1, ·)) ++ late.map ((0, ·)))
      (d.listing early ++ [d.outlineNode 0 id])
    rw [← entered] at kept
    exact ⟨d.outlineNode 0 id, kept.subset (by simp), rfl, rfl⟩

theorem keys_split {m : SortedMap String Entry} {id : String} (known : m.contains id = true) :
    ∃ lower higher, m.keys = lower ++ id :: higher ∧
      ∀ key, key ∈ lower ↔ m.contains key = true ∧ key < id := by
  obtain ⟨lower, higher, cut⟩ := List.append_of_mem (mem_keys.2 known)
  have sorted : m.keys.Pairwise (· < ·) := List.pairwise_map.2 m.sorted
  rw [cut] at sorted
  obtain ⟨_, later, across⟩ := List.pairwise_append.1 sorted
  refine ⟨lower, higher, cut, fun key => ⟨?_, ?_⟩⟩
  · intro member
    refine ⟨mem_keys.1 ?_, across key member id List.mem_cons_self⟩
    rw [cut]
    exact List.mem_append_left _ member
  · intro here
    obtain ⟨held, less⟩ := here
    have member := mem_keys.2 held
    rw [cut] at member
    rcases List.mem_append.1 member with before | after
    · exact before
    · rcases List.mem_cons.1 after with rfl | after
      · exact absurd less (OrderedKey.irrefl key)
      · have greater := List.rel_of_pairwise_cons later after
        exact absurd (OrderedKey.trans less greater) (OrderedKey.irrefl key)

theorem listedAtTop_iff (named : d.threats.contains "" = false) (below : d.HasParent id parent)
    (proper : parent ≠ "") : d.ListedAtTop id ↔ d.Caught id ∧ d.PrecedesAncestors id := by
  -- The threat is a start after all roots and all lower threats, and not before.
  obtain ⟨lower, higher, cut, mem_lower⟩ := keys_split below.contains
  have starts : d.outlineStarts = (outlineRoots d d.threatTree ++ lower) ++ id :: higher := by
    rw [outlineStarts, cut, List.append_assoc]
  have new : id ∉ outlineRoots d d.threatTree ++ lower := by
    intro member
    rcases List.mem_append.1 member with root | less
    · rcases mem_outlineRoots.1 root with parentless | ⟨_, missing, _⟩
      · exact proper (below.unique parentless)
      · rw [below.contains] at missing
        cases missing
    · exact OrderedKey.irrefl id ((mem_lower id).1 less).2
  rw [ListedAtTop, outline_eq, starts, top_iff new, ← Bool.not_eq_true, isListed_listing]
  have rooted := caught_iff_rootless named below.contains
  constructor
  · intro unreached
    have caught : d.Caught id := by
      rw [rooted]
      intro root member chain
      exact unreached ⟨root, List.mem_append_left _ member, chain⟩
    refine ⟨caught, ?_⟩
    intro a chain less
    have held := contains_of_caught caught chain.to_reflTransGen
    have early : a ∈ lower := (mem_lower a).2 ⟨held, less⟩
    exact unreached ⟨a, List.mem_append_right _ early, chain.to_reflTransGen⟩
  · intro first reached
    obtain ⟨caught, precedes⟩ := first
    obtain ⟨start, member, chain⟩ := reached
    rcases List.mem_append.1 member with root | early
    · exact rooted.1 caught start root chain
    · have less := ((mem_lower start).1 early).2
      rcases reflTransGen_iff_eq_or_transGen.1 chain with rfl | ancestor
      · exact OrderedKey.irrefl start less
      · exact precedes start ancestor less

theorem listedBelow_iff (below : d.HasParent id parent) :
    d.ListedBelow parent id ↔ ¬ d.ListedAtTop id := by
  constructor
  · intro listed atTop
    obtain ⟨front, above, between, node, after, cut, _, same, level, _⟩ := listed
    obtain ⟨other, member, same', top⟩ := atTop
    have inside : node ∈ d.listing d.outlineStarts := by
      rw [← outline_eq, cut]
      simp
    have once := eq_of_mem_listing inside member (same.trans same'.symm)
    subst once
    omega
  · intro deep
    have member := mem_outline_iff.2 (.inl below.contains)
    obtain ⟨node, inside, rfl⟩ := List.mem_map.1 member
    obtain ⟨before, after, cut⟩ := List.append_of_mem inside
    have placed := wellPlaced_listing d.outlineStarts before node after cut
    rcases placed with top | ⟨front, above, between, rfl, level, deeper, below'⟩
    · exact absurd ⟨node, inside, rfl, top⟩ deep
    · refine ⟨front, above, between, node, after, cut, below'.unique below, rfl, level.symm, ?_⟩
      intro m between
      have lower := deeper m between
      omega

theorem lowestOfCycle_iff : d.LowestOfCycle id ↔ d.OnCycle id ∧ d.PrecedesAncestors id := by
  constructor
  · intro lowest
    obtain ⟨cycle, lowest⟩ := lowest
    refine ⟨cycle, fun a chain => lowest a chain ?_⟩
    exact cycle.trans_right (reflTransGen_of_onCycle cycle chain.to_reflTransGen)
  · intro first
    exact ⟨first.1, fun a chain _ => first.2 a chain⟩

/-- Each threat that names a parent is listed below it, except the lowest of each cycle, which is
listed at the top. -/
def ShowsHierarchy (d : Document) : Prop :=
  ∀ id parent, d.HasParent id parent → parent ≠ "" →
    (d.ListedAtTop id ↔ d.LowestOfCycle id) ∧ (d.ListedBelow parent id ↔ ¬ d.LowestOfCycle id)

/-- Each threat that names a parent is listed below it, unless it is caught in a cycle and comes
before all its ancestors. Only on the cycle itself is that the lowest identifier of the cycle. -/
theorem outline_hierarchy (d : Document) (named : d.threats.contains "" = false) :
    (∀ id parent, d.HasParent id parent → parent ≠ "" →
      (d.ListedAtTop id ↔ d.Caught id ∧ d.PrecedesAncestors id) ∧
      (d.ListedBelow parent id ↔ ¬ (d.Caught id ∧ d.PrecedesAncestors id))) ∧
    (d.ShowsHierarchy ↔ ∀ id, d.Caught id → d.PrecedesAncestors id → d.OnCycle id) := by
  have listed : ∀ id parent, d.HasParent id parent → parent ≠ "" →
      (d.ListedAtTop id ↔ d.Caught id ∧ d.PrecedesAncestors id) ∧
      (d.ListedBelow parent id ↔ ¬ (d.Caught id ∧ d.PrecedesAncestors id)) := by
    intro id parent below proper
    have top := listedAtTop_iff named below proper
    exact ⟨top, (listedBelow_iff below).trans (not_congr top)⟩
  refine ⟨listed, ?_, ?_⟩
  · intro shown id caught precedes
    obtain ⟨parent, below⟩ := exists_hasParent (contains_of_caught caught .refl)
    have known := contains_of_caught caught (.single below)
    have proper : parent ≠ "" := by
      rintro rfl
      rw [named] at known
      cases known
    have top := (listed id parent below proper).1.2 ⟨caught, precedes⟩
    have lowest := (shown id parent below proper).1.1 top
    exact lowest.1
  · intro onCycle id parent below proper
    have same : d.Caught id ∧ d.PrecedesAncestors id ↔ d.LowestOfCycle id := by
      rw [lowestOfCycle_iff]
      constructor
      · intro first
        exact ⟨onCycle id first.1 first.2, first.2⟩
      · intro first
        exact ⟨⟨id, .refl, first.1⟩, first.2⟩
    rw [← same]
    exact listed id parent below proper

/-- Two threats on a cycle, and a third one below it whose identifier is the lowest. -/
def leakDocument : Document where
  threats := SortedMap.ofList [
    ("@audit", { name := "Audit gap", parent := some "@logs" }),
    ("@leak", { name := "Leak", parent := some "@logs" }),
    ("@logs", { name := "Logs", parent := some "@leak" })]

theorem logs_listed_below_leak :
    leakDocument.threats.contains "" = false ∧ leakDocument.ListedBelow "@leak" "@logs" := by
  have named : leakDocument.threats.contains "" = false := by decide +kernel
  have below : leakDocument.HasParent "@logs" "@leak" := mem_children.1 (by decide +kernel)
  have lower : ¬ leakDocument.PrecedesAncestors "@logs" := by
    intro precedes
    exact precedes "@leak" (.single below) (by decide)
  have listed := (outline_hierarchy leakDocument named).1 "@logs" "@leak" below (by decide)
  exact ⟨named, listed.2.2 fun first => lower first.2⟩

/-- The threat below the cycle is on no cycle, and yet it is listed at the top. -/
theorem not_showsHierarchy_leakDocument :
    leakDocument.threats.contains "" = false ∧ leakDocument.HasParent "@audit" "@logs" ∧
      leakDocument.ListedAtTop "@audit" ∧ ¬ leakDocument.OnCycle "@audit" ∧
      ¬ leakDocument.ShowsHierarchy := by
  have below : leakDocument.HasParent "@audit" "@logs" := mem_children.1 (by decide +kernel)
  have top : leakDocument.ListedAtTop "@audit" :=
    ⟨⟨0, "@audit", "Audit gap"⟩, by decide +kernel, rfl, rfl⟩
  have childless : children leakDocument.threatTree "@audit" = [] := by decide +kernel
  have free : ¬ leakDocument.OnCycle "@audit" := by
    intro cycle
    obtain ⟨child, _, last⟩ := TransGen.tail'_iff.1 cycle
    have member := mem_children.2 last
    rw [childless] at member
    cases member
  refine ⟨by decide +kernel, below, top, free, ?_⟩
  intro shown
  have lowest := (shown "@audit" "@logs" below (by decide)).1.1 top
  exact free lowest.1

end Document
end ThreatModel
