import ThreatModel.Path

namespace ThreatModel

/-- The entries of a folder come in ascending order of their names. -/
inductive FileTree where
  | file (content : ByteArray)
  | folder (entries : List (String × FileTree))
deriving Inhabited

namespace FileTree

def isFolder : FileTree → Bool
  | folder _ => true
  | file _ => false

def child? (name : String) : FileTree → Option FileTree
  | folder entries => entries.lookup name
  | file _ => none

def at? : List String → FileTree → Option FileTree
  | [], t => some t
  | name :: place, t => (t.child? name).bind (at? place)

def updateEntry (name : String) (f : Option FileTree → FileTree) :
    List (String × FileTree) → List (String × FileTree)
  | [] => [(name, f none)]
  | (n, t) :: rest =>
    if n = name then (n, f (some t)) :: rest
    else if name < n then (name, f none) :: (n, t) :: rest
    else (n, t) :: updateEntry name f rest

def put (new : FileTree) : List String → Option FileTree → FileTree
  | [], _ => new
  | name :: place, some (folder entries) => folder (updateEntry name (put new place) entries)
  | name :: place, _ => folder [(name, put new place none)]

def text? : FileTree → Option String
  | file content => String.fromUTF8? content
  | folder _ => none

end FileTree

end ThreatModel
