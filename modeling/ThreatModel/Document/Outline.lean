import ThreatModel.Document

namespace ThreatModel

structure OutlineNode where
  depth : Nat
  id : String
  /-- Empty for a parent that is not in the catalogue. -/
  name : String
deriving DecidableEq

namespace Document

/-- The children of every parent; a threat without one is a child of the empty text. -/
def threatTree (d : Document) : SortedMap String (List String) :=
  d.threats.entries.foldl (fun tree (id, t) => tree.push (t.parent.getD "") id) ∅

def children (tree : SortedMap String (List String)) (id : String) : List String :=
  (tree.get? id).getD []

def outlineRoots (d : Document) (tree : SortedMap String (List String)) : List String :=
  (children tree "" ++ tree.keys.filter fun p => !p.isEmpty && !d.threats.contains p).mergeSort
    fun a b => !decide (b < a)

def outlineNode (d : Document) (depth : Nat) (id : String) : OutlineNode :=
  ⟨depth, id, (d.threats.get? id).elim "" (·.name)⟩

def isListed (listed : List OutlineNode) (id : String) : Bool := listed.any (·.id = id)

/-- The number of children below parents that are not listed yet. -/
def waiting (listed : List OutlineNode) : List (String × List String) → Nat
  | [] => 0
  | (id, below) :: entries =>
    (if isListed listed id then 0 else below.length) + waiting listed entries

theorem isListed_concat {listed : List OutlineNode} {node : OutlineNode} {id : String} :
    isListed (listed ++ [node]) id = (isListed listed id || decide (node.id = id)) := by
  simp [isListed]

theorem waiting_concat_le (listed : List OutlineNode) (node : OutlineNode)
    (entries : List (String × List String)) :
    waiting (listed ++ [node]) entries ≤ waiting listed entries := by
  induction entries with
  | nil => exact Nat.le_refl _
  | cons e entries ih =>
    simp only [waiting, isListed_concat]
    cases isListed listed e.1 <;> by_cases here : node.id = e.1 <;>
      simp only [here, decide_true, decide_false, Bool.or_true, Bool.or_false, if_true,
        Bool.false_eq_true, if_false] <;> omega

theorem children_add_waiting_le (tree : SortedMap String (List String)) {listed : List OutlineNode}
    {node : OutlineNode} (fresh : isListed listed node.id = false) :
    (children tree node.id).length + waiting (listed ++ [node]) tree.entries ≤
      waiting listed tree.entries := by
  unfold children SortedMap.get?
  induction tree.entries with
  | nil => exact Nat.le_refl _
  | cons e entries ih =>
    obtain ⟨key, below⟩ := e
    have later := waiting_concat_le listed node entries
    simp only [waiting, isListed_concat, SortedMap.lookupEntry]
    by_cases same : node.id = key
    · subst same
      have irrefl : ¬ node.id < node.id := OrderedKey.irrefl _
      simp only [irrefl, if_false, fresh, decide_true, Bool.or_true, if_true, Option.getD_some,
        Bool.false_eq_true]
      omega
    · simp only [same, decide_false, Bool.or_false]
      by_cases before : key < node.id
      · simp only [before, if_true]
        omega
      · by_cases after : node.id < key
        · simp only [before, after, if_true, if_false, Option.getD_none, List.length_nil]
          omega
        · exact absurd (OrderedKey.connex after before) same

/-- Lists the given identifiers, each followed by what is below it, and skips those that are listed
already. -/
def outlineFrom (d : Document) (tree : SortedMap String (List String)) :
    List (Nat × String) → List OutlineNode → List OutlineNode
  | [], listed => listed
  | (depth, id) :: rest, listed =>
    if isListed listed id then outlineFrom d tree rest listed
    else
      outlineFrom d tree ((children tree id).map ((depth + 1, ·)) ++ rest)
        (listed ++ [d.outlineNode depth id])
termination_by todo listed => todo.length + waiting listed tree.entries
decreasing_by
  · simp
  · have fresh : isListed listed (d.outlineNode depth id).id = false := Bool.eq_false_iff.2 ‹_›
    have fewer := children_add_waiting_le tree fresh
    simp only [outlineNode, List.length_append, List.length_map, List.length_cons] at fewer ⊢
    omega

/-- The hierarchy from top to bottom. Each threat is met once as a child and once on its own, and
each other parent once. -/
def outline (d : Document) : List OutlineNode :=
  let tree := d.threatTree
  outlineFrom d tree ((outlineRoots d tree ++ d.threats.keys).map ((0, ·))) []

end Document

end ThreatModel
