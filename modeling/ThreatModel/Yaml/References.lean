import ThreatModel.Yaml.Node

namespace ThreatModel.Yaml.Node

/-- The anchors so far, each with the number of references that are followed within its node. -/
abbrev Followed := List (List Char × Nat)

def Followed.note (followed : Followed) (p : Properties) (n : Nat) : Followed :=
  match p.anchor with
  | none => followed
  | some a => (a, n) :: followed

mutual

def followed (anchors : Followed) : Node → Nat × Followed
  | .reference a => ((anchors.lookup a).getD 0 + 1, anchors)
  | .scalar p _ _ => (0, anchors.note p 0)
  | .sequence p items =>
    let (n, anchors) := itemsFollowed anchors items
    (n, anchors.note p n)
  | .mapping p entries =>
    let (n, anchors) := entriesFollowed anchors entries
    (n, anchors.note p n)

def itemsFollowed (anchors : Followed) : List Node → Nat × Followed
  | [] => (0, anchors)
  | item :: items =>
    let (m, anchors) := followed anchors item
    let (n, anchors) := itemsFollowed anchors items
    (m + n, anchors)

def entriesFollowed (anchors : Followed) : List (Node × Node) → Nat × Followed
  | [] => (0, anchors)
  | (key, value) :: entries =>
    let (k, anchors) := followed anchors key
    let (m, anchors) := followed anchors value
    let (n, anchors) := entriesFollowed anchors entries
    (k + m + n, anchors)

end

mutual

/-- The size of a node as it is written: a collection counts twice, for its start and its end. -/
def written : Node → Nat
  | .reference _ | .scalar _ _ _ => 1
  | .sequence _ items => itemsWritten items + 2
  | .mapping _ entries => entriesWritten entries + 2

def itemsWritten : List Node → Nat
  | [] => 0
  | item :: items => written item + itemsWritten items

def entriesWritten : List (Node × Node) → Nat
  | [] => 0
  | (key, value) :: entries => written key + written value + entriesWritten entries

end

/-- Whether references are followed more often than a document of this size allows. -/
def multiplies (node : Node) : Bool := 100 * node.written < (node.followed []).1

end ThreatModel.Yaml.Node
