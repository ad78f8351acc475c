import Mathlib.Data.List.Chain
import Mathlib.Data.List.Nodup
import Mathlib.Logic.Relation
import ThreatModel.Document.Outline
import ThreatModel.Proofs.SortedMap

namespace ThreatModel

open SortedMap

namespace Document

variable {d : Document}

/-- `parent` is what the threat names as its parent; the empty text if it names none. -/
def HasParent (d : Document) (id parent : String) : Prop :=
  ∃ t, d.threats.get? id = some t ∧ t.parent.getD "" = parent

theorem HasParent.contains {id parent : String} (below : d.HasParent id parent) :
    d.threats.contains id = true := by
  obtain ⟨t, held, _⟩ := below
  exact contains_iff.2 ⟨t, held⟩

theorem HasParent.unique {id parent other : String} (first : d.HasParent id parent)
    (second : d.HasParent id other) : parent = other := by
  obtain ⟨t, held, rfl⟩ := first
  obtain ⟨u, held', rfl⟩ := second
  rw [held] at held'
  cases held'
  rfl

theorem exists_hasParent {id : String} (known : d.threats.contains id = true) :
    ∃ parent, d.HasParent id parent := by
  obtain ⟨t, held⟩ := contains_iff.1 known
  exact ⟨_, t, held, rfl⟩

theorem mem_children {id parent : String} :
    id ∈ children d.threatTree parent ↔ d.HasParent id parent := by
  have listed := get?_foldl_push (fun e : String × Entry => e.2.parent.getD "") (·.1)
    d.threats.entries ∅ parent
  have read : children d.threatTree parent = _ := listed
  simp only [read, get?_empty, Option.getD_none, List.nil_append, List.mem_map, List.mem_filter,
    decide_eq_true_eq, HasParent, get?_eq_some, Prod.exists, exists_and_right, exists_eq_right]

theorem mem_keys_threatTree {parent : String} :
    parent ∈ d.threatTree.keys ↔ ∃ id, d.HasParent id parent := by
  have grown := contains_foldl_push (fun e : String × Entry => e.2.parent.getD "") (·.1)
    d.threats.entries ∅ parent
  have read : d.threatTree.contains parent = true ↔ _ := grown
  simp only [mem_keys, read, contains_empty, Bool.false_eq_true, false_or, HasParent, get?_eq_some,
    Prod.exists]

theorem mem_outlineRoots {id : String} :
    id ∈ outlineRoots d d.threatTree ↔
      d.HasParent id "" ∨ (id ≠ "" ∧ d.threats.contains id = false ∧ ∃ child, d.HasParent child id) := by
  simp only [outlineRoots, List.mem_mergeSort, List.mem_append, mem_children, List.mem_filter,
    mem_keys_threatTree, Bool.and_eq_true, Bool.not_eq_true', String.isEmpty_eq_false_iff]
  refine or_congr_right ⟨?_, ?_⟩
  · intro h
    obtain ⟨child, named, absent⟩ := h
    exact ⟨named, absent, child⟩
  · intro h
    obtain ⟨named, absent, child⟩ := h
    exact ⟨child, named, absent⟩

/-- What is left when all is listed, if each step keeps it. -/
theorem outlineFrom_induction {tree : SortedMap String (List String)}
    {motive : List (Nat × String) → List OutlineNode → Prop}
    (skip : ∀ depth id rest listed, isListed listed id = true →
      motive ((depth, id) :: rest) listed → motive rest listed)
    (enter : ∀ depth id rest listed, isListed listed id = false →
      motive ((depth, id) :: rest) listed →
      motive ((children tree id).map ((depth + 1, ·)) ++ rest) (listed ++ [d.outlineNode depth id]))
    {todo : List (Nat × String)} {listed : List OutlineNode} (start : motive todo listed) :
    motive [] (outlineFrom d tree todo listed) := by
  fun_induction outlineFrom d tree todo listed with
  | case1 listed => exact start
  | case2 depth id rest listed already ih => exact ih (skip depth id rest listed already start)
  | case3 depth id rest listed fresh ih =>
    exact ih (enter depth id rest listed (Bool.eq_false_iff.2 fresh) start)

theorem isListed_iff {listed : List OutlineNode} {id : String} :
    isListed listed id = true ↔ id ∈ listed.map (·.id) := by
  simp [isListed]

theorem prefix_outlineFrom (tree : SortedMap String (List String)) (todo : List (Nat × String))
    (listed : List OutlineNode) : listed <+: outlineFrom d tree todo listed := by
  refine outlineFrom_induction (motive := fun _ later => listed <+: later) ?_ ?_
    (List.prefix_refl listed)
  · intro depth id rest later _ begins
    exact begins
  · intro depth id rest later _ begins
    exact begins.trans (List.prefix_append later _)

theorem outlineFrom_append (tree : SortedMap String (List String)) (todo more : List (Nat × String))
    (listed : List OutlineNode) :
    outlineFrom d tree (todo ++ more) listed =
      outlineFrom d tree more (outlineFrom d tree todo listed) := by
  fun_induction outlineFrom d tree todo listed with
  | case1 listed => rfl
  | case2 depth id rest listed already ih =>
    rw [List.cons_append, outlineFrom, if_pos already, ih]
  | case3 depth id rest listed fresh ih =>
    rw [List.cons_append, outlineFrom, if_neg fresh, ← List.append_assoc, ih]

/-- The recursion by which a hierarchy is listed: each identifier that is not listed yet, and then
all that is below it one level deeper. Nothing bounds how often an identifier can be met. -/
inductive Walks (d : Document) : Nat → List String → List OutlineNode → List OutlineNode → Prop
  | done (depth : Nat) (listed : List OutlineNode) : Walks d depth [] listed listed
  | skip {depth : Nat} {id : String} {ids : List String} {listed result : List OutlineNode}
      (already : isListed listed id = true) (later : Walks d depth ids listed result) :
      Walks d depth (id :: ids) listed result
  | enter {depth : Nat} {id : String} {ids : List String} {listed below result : List OutlineNode}
      (fresh : isListed listed id = false)
      (inside : Walks d (depth + 1) (children d.threatTree id)
        (listed ++ [d.outlineNode depth id]) below)
      (later : Walks d depth ids below result) : Walks d depth (id :: ids) listed result

theorem waiting_le_of_prefix {listed later : List OutlineNode} (begins : listed <+: later)
    (entries : List (String × List String)) : waiting later entries ≤ waiting listed entries := by
  obtain ⟨more, rfl⟩ := begins
  induction more generalizing listed with
  | nil => simp
  | cons node more ih =>
    rw [List.append_cons]
    exact Nat.le_trans ih (waiting_concat_le listed node entries)

theorem walks_outlineFrom (depth : Nat) (ids : List String) (listed : List OutlineNode) :
    d.Walks depth ids listed (outlineFrom d d.threatTree (ids.map ((depth, ·))) listed) := by
  match ids with
  | [] =>
    rw [List.map_nil, outlineFrom]
    exact .done depth listed
  | id :: ids =>
    rw [List.map_cons, outlineFrom]
    by_cases already : isListed listed id = true
    · rw [if_pos already]
      exact .skip already (walks_outlineFrom depth ids listed)
    · rw [if_neg already, outlineFrom_append]
      have fresh : isListed listed id = false := Bool.eq_false_iff.2 already
      -- What is below comes first; after it at most as many children wait as before.
      exact .enter fresh (walks_outlineFrom (depth + 1) (children d.threatTree id) _)
        (walks_outlineFrom depth ids _)
termination_by ids.length + waiting listed d.threatTree.entries
decreasing_by
  · simp
  · have fresh' : isListed listed (d.outlineNode depth id).id = false := fresh
    have fewer := children_add_waiting_le d.threatTree fresh'
    simp only [outlineNode, List.length_cons] at fewer ⊢
    omega
  · have begins := (List.prefix_append listed [d.outlineNode depth id]).trans
      (prefix_outlineFrom (d := d) d.threatTree ((children d.threatTree id).map ((depth + 1, ·))) _)
    have fewer := waiting_le_of_prefix begins d.threatTree.entries
    simp only [List.length_cons]
    omega

def Met (todo : List (Nat × String)) (listed : List OutlineNode) (id : String) : Prop :=
  isListed listed id = true ∨ id ∈ todo.map (·.2)

theorem met_skip {depth : Nat} {id : String} {rest : List (Nat × String)}
    {listed : List OutlineNode} (already : isListed listed id = true) {other : String} :
    Met ((depth, id) :: rest) listed other ↔ Met rest listed other := by
  simp only [Met, List.map_cons, List.mem_cons]
  constructor
  · intro met
    rcases met with known | same | later
    · exact .inl known
    · exact .inl (same ▸ already)
    · exact .inr later
  · intro met
    exact met.imp_right .inr

theorem met_enter {depth : Nat} {id : String} {rest : List (Nat × String)}
    {listed : List OutlineNode} {other : String} :
    Met ((children d.threatTree id).map ((depth + 1, ·)) ++ rest)
        (listed ++ [d.outlineNode depth id]) other ↔
      Met ((depth, id) :: rest) listed other ∨ d.HasParent other id := by
  simp only [Met, isListed_concat, outlineNode, Bool.or_eq_true, decide_eq_true_eq, List.map_append,
    List.map_map, List.mem_append, List.map_cons, List.mem_cons, Function.comp_def, List.map_id',
    mem_children]
  constructor
  · intro met
    rcases met with (known | same) | below | later
    · exact .inl (.inl known)
    · exact .inl (.inr (.inl same.symm))
    · exact .inr below
    · exact .inl (.inr (.inr later))
  · intro met
    rcases met with (known | same | later) | below
    · exact .inl (.inl known)
    · exact .inl (.inr same.symm)
    · exact .inr (.inr later)
    · exact .inr (.inl below)

@[simp] theorem met_nil {listed : List OutlineNode} {id : String} :
    Met [] listed id ↔ isListed listed id = true := by
  simp [Met]

def listing (d : Document) (starts : List String) : List OutlineNode :=
  outlineFrom d d.threatTree (starts.map ((0, ·))) []

theorem met_starts {starts : List String} {id : String} :
    Met (starts.map ((0, ·))) [] id ↔ id ∈ starts := by
  simp [Met, isListed]

theorem exists_start_of_isListed {starts : List String} {id : String}
    (known : isListed (d.listing starts) id = true) :
    ∃ start ∈ starts, Relation.ReflTransGen d.HasParent id start := by
  suffices reached : ∀ id, Met [] (d.listing starts) id →
      ∃ start ∈ starts, Relation.ReflTransGen d.HasParent id start from reached id (.inl known)
  refine outlineFrom_induction (motive := fun todo listed => ∀ id, Met todo listed id →
    ∃ start ∈ starts, Relation.ReflTransGen d.HasParent id start) ?_ ?_ ?_
  · intro depth id rest listed already reached other met
    exact reached other ((met_skip already).2 met)
  · intro depth id rest listed _ reached other met
    rcases met_enter.1 met with before | below
    · exact reached other before
    · obtain ⟨start, member, chain⟩ := reached id (.inr (by simp))
      exact ⟨start, member, chain.head below⟩
  · intro id met
    exact ⟨id, met_starts.1 met, .refl⟩

theorem isListed_start {starts : List String} {start : String} (member : start ∈ starts) :
    isListed (d.listing starts) start = true := by
  rw [← met_nil]
  refine outlineFrom_induction (motive := fun todo listed => Met todo listed start) ?_ ?_ ?_
  · intro depth id rest listed already met
    exact (met_skip already).1 met
  · intro depth id rest listed _ met
    exact met_enter.2 (.inl met)
  · exact met_starts.2 member

theorem isListed_of_hasParent {starts : List String} {child parent : String}
    (below : d.HasParent child parent) (known : isListed (d.listing starts) parent = true) :
    isListed (d.listing starts) child = true := by
  suffices closed : isListed (d.listing starts) parent = true → Met [] (d.listing starts) child by
    exact met_nil.1 (closed known)
  refine outlineFrom_induction (motive := fun todo listed => isListed listed parent = true →
    Met todo listed child) ?_ ?_ ?_
  · intro depth id rest listed already closed known
    exact (met_skip already).1 (closed known)
  · intro depth id rest listed _ closed known
    rw [isListed_concat, Bool.or_eq_true] at known
    rcases known with before | here
    · exact met_enter.2 (.inl (closed before))
    · have same : id = parent := of_decide_eq_true here
      exact met_enter.2 (.inr (same ▸ below))
  · intro known
    cases known

theorem isListed_listing {starts : List String} {id : String} :
    isListed (d.listing starts) id = true ↔
      ∃ start ∈ starts, Relation.ReflTransGen d.HasParent id start := by
  constructor
  · exact exists_start_of_isListed
  · intro reached
    obtain ⟨start, member, chain⟩ := reached
    induction chain using Relation.ReflTransGen.head_induction_on with
    | refl => exact isListed_start member
    | head below _ ih => exact isListed_of_hasParent below ih

theorem nodup_listing (starts : List String) : ((d.listing starts).map (·.id)).Nodup := by
  refine outlineFrom_induction (motive := fun _ listed => (listed.map (·.id)).Nodup) ?_ ?_ ?_
  · intro depth id rest listed _ distinct
    exact distinct
  · intro depth id rest listed fresh distinct
    have new : id ∉ listed.map (·.id) := by
      rw [← isListed_iff, fresh]
      exact Bool.false_ne_true
    rw [List.map_append, List.map_singleton, ← List.concat_eq_append]
    exact distinct.concat new
  · exact List.nodup_nil

/-- The place where an identifier stands after `before`: at the top, or one level below the last
node above that level, which is its parent. -/
def Placed (d : Document) (before : List OutlineNode) (depth : Nat) (id : String) : Prop :=
  depth = 0 ∨ ∃ front above between, before = front ++ above :: between ∧
    above.depth + 1 = depth ∧ (∀ m ∈ between, depth ≤ m.depth) ∧ d.HasParent id above.id

theorem Placed.concat {before : List OutlineNode} {depth : Nat} {id : String}
    (placed : d.Placed before depth id) {node : OutlineNode} (deep : depth ≤ node.depth) :
    d.Placed (before ++ [node]) depth id := by
  rcases placed with top | ⟨front, above, between, rfl, level, deeper, below⟩
  · exact .inl top
  · refine .inr ⟨front, above, between ++ [node], by simp, level, ?_, below⟩
    intro m member
    rcases List.mem_append.1 member with inside | last
    · exact deeper m inside
    · rw [List.mem_singleton.1 last]
      exact deep

theorem placed_child {listed : List OutlineNode} {node : OutlineNode} {child : String}
    (below : d.HasParent child node.id) : d.Placed (listed ++ [node]) (node.depth + 1) child :=
  .inr ⟨listed, node, [], rfl, rfl, by simp, below⟩

theorem Placed.depth_le {before : List OutlineNode} {last : OutlineNode} {depth : Nat} {id : String}
    (placed : d.Placed (before ++ [last]) depth id) : depth ≤ last.depth + 1 := by
  rcases placed with top | ⟨front, above, between, same, level, deeper, _⟩
  · omega
  · rcases List.eq_nil_or_concat between with rfl | ⟨between, end', rfl⟩
    · obtain ⟨_, same⟩ := List.append_inj' same rfl
      cases same
      omega
    · have same' : before ++ [last] = (front ++ above :: between) ++ [end'] := by simpa using same
      obtain ⟨_, same'⟩ := List.append_inj' same' rfl
      cases same'
      have deep := deeper last (by simp)
      omega

def WellPlaced (d : Document) (listed : List OutlineNode) : Prop :=
  ∀ before node after, listed = before ++ node :: after → d.Placed before node.depth node.id

theorem WellPlaced.concat {listed : List OutlineNode} (placed : d.WellPlaced listed)
    {node : OutlineNode} (here : d.Placed listed node.depth node.id) :
    d.WellPlaced (listed ++ [node]) := by
  intro before other after cut
  rcases List.eq_nil_or_concat after with rfl | ⟨after, last, rfl⟩
  · obtain ⟨rfl, same⟩ := List.append_inj' cut rfl
    cases same
    exact here
  · have cut' : listed ++ [node] = (before ++ other :: after) ++ [last] := by simpa using cut
    obtain ⟨same, _⟩ := List.append_inj' cut' rfl
    exact placed before other after same

/-- What is left to do is at its place, too, and goes up in the hierarchy, so that whatever is
listed first does not come between the rest and its parents. -/
structure Orderly (d : Document) (todo : List (Nat × String)) (listed : List OutlineNode) :
    Prop where
  placed : d.WellPlaced listed
  ready : ∀ item ∈ todo, d.Placed listed item.1 item.2
  rising : todo.Pairwise fun first later => later.1 ≤ first.1

theorem Orderly.skip {item : Nat × String} {rest : List (Nat × String)} {listed : List OutlineNode}
    (orderly : d.Orderly (item :: rest) listed) : d.Orderly rest listed where
  placed := orderly.placed
  ready := fun other member => orderly.ready other (List.mem_cons_of_mem _ member)
  rising := orderly.rising.of_cons

theorem Orderly.enter {depth : Nat} {id : String} {rest : List (Nat × String)}
    {listed : List OutlineNode} (orderly : d.Orderly ((depth, id) :: rest) listed) :
    d.Orderly ((children d.threatTree id).map ((depth + 1, ·)) ++ rest)
      (listed ++ [d.outlineNode depth id]) where
  placed := orderly.placed.concat (orderly.ready (depth, id) List.mem_cons_self)
  ready := by
    intro item member
    rcases List.mem_append.1 member with below | later
    · obtain ⟨child, inside, rfl⟩ := List.mem_map.1 below
      have parent : d.HasParent child (d.outlineNode depth id).id := mem_children.1 inside
      exact placed_child parent
    · have higher := List.rel_of_pairwise_cons orderly.rising later
      exact (orderly.ready item (List.mem_cons_of_mem _ later)).concat higher
  rising := by
    refine List.pairwise_append.2 ⟨?_, orderly.rising.of_cons, ?_⟩
    · rw [List.pairwise_map]
      exact List.pairwise_of_forall fun _ _ => Nat.le_refl _
    · intro item below other later
      obtain ⟨child, _, rfl⟩ := List.mem_map.1 below
      have higher := List.rel_of_pairwise_cons orderly.rising later
      exact Nat.le_succ_of_le higher

theorem wellPlaced_listing (starts : List String) : d.WellPlaced (d.listing starts) := by
  have start : d.Orderly (starts.map ((0, ·))) [] := by
    refine ⟨?_, ?_, ?_⟩
    · intro before node after cut
      simp at cut
    · intro item member
      obtain ⟨_, _, rfl⟩ := List.mem_map.1 member
      exact .inl rfl
    · rw [List.pairwise_map]
      exact List.pairwise_of_forall fun _ _ => Nat.le_refl _
  have orderly : d.Orderly [] (d.listing starts) := by
    refine outlineFrom_induction (motive := d.Orderly) ?_ ?_ start
    · intro depth id rest listed _ orderly
      exact orderly.skip
    · intro depth id rest listed _ orderly
      exact orderly.enter
  exact orderly.placed

def outlineStarts (d : Document) : List String := outlineRoots d d.threatTree ++ d.threats.keys

theorem outline_eq (d : Document) : d.outline = d.listing d.outlineStarts := rfl

theorem mem_outline_iff {id : String} :
    id ∈ d.outline.map (·.id) ↔ d.threats.contains id = true ∨
      id ≠ "" ∧ d.threats.contains id = false ∧ ∃ child, d.HasParent child id := by
  rw [outline_eq, ← isListed_iff, isListed_listing]
  simp only [outlineStarts, List.mem_append, mem_outlineRoots, mem_keys]
  constructor
  · intro reached
    obtain ⟨start, member, chain⟩ := reached
    rcases Relation.ReflTransGen.cases_head chain with rfl | ⟨_, below, _⟩
    · rcases member with (parentless | missing) | known
      · exact .inl parentless.contains
      · exact .inr missing
      · exact .inl known
    · exact .inl below.contains
  · intro here
    rcases here with known | missing
    · exact ⟨id, .inr known, .refl⟩
    · exact ⟨id, .inl (.inr missing), .refl⟩

/-- The recursion through any parents ends. It lists every threat and every other parent that is
named, each of them once, and what stands below the top is a threat one level below its parent, with
nothing between them that is higher. -/
theorem outline_traverses (d : Document) :
    d.Walks 0 d.outlineStarts [] d.outline ∧
    (d.outline.map (·.id)).Nodup ∧
    (∀ id, id ∈ d.outline.map (·.id) ↔ d.threats.contains id = true ∨
      id ≠ "" ∧ d.threats.contains id = false ∧ ∃ child, d.HasParent child id) ∧
    (∀ node ∈ d.outline.head?, node.depth = 0) ∧
    (d.outline.IsChain fun node next => next.depth ≤ node.depth + 1) ∧
    ∀ before node after, d.outline = before ++ node :: after → 0 < node.depth →
      ∃ front above between, before = front ++ above :: between ∧ above.depth + 1 = node.depth ∧
        (∀ m ∈ between, node.depth ≤ m.depth) ∧ d.HasParent node.id above.id := by
  have placed : d.WellPlaced d.outline := wellPlaced_listing d.outlineStarts
  refine ⟨walks_outlineFrom 0 d.outlineStarts [], nodup_listing d.outlineStarts,
    fun _ => mem_outline_iff, ?_, ?_, ?_⟩
  · intro node first
    obtain ⟨after, cut⟩ := List.head?_eq_some_iff.1 first
    rcases placed [] node after cut with top | ⟨front, above, between, same, _⟩
    · exact top
    · simp at same
  · rw [List.isChain_iff_forall_rel_of_append_cons_cons]
    intro node next before after cut
    have here := placed (before ++ [node]) next after (by simpa using cut)
    exact here.depth_le
  · intro before node after cut deep
    exact (placed before node after cut).resolve_left (Nat.ne_of_gt deep)

end Document
end ThreatModel
