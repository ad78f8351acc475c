import ThreatModel.Scan.UserIgnore

namespace ThreatModel

structure IgnoreLevel where
  place : List String
  /-- Whether the folder is the top of a repository, of git or of a tool that reads its files. -/
  isRepository : Bool
  own : IgnoreFile
  shared : IgnoreFile
  excluded : IgnoreFile

namespace IgnoreLevel

def firstLine? : Option FileTree → Option (List Char)
  | some (.file content) =>
    if content.isEmpty then none else (IgnoreFile.linesOf content).head?
  | _ => none

/-- The repository of a folder whose `.git` is a file: that file names a folder, and there the file
`commondir` leads to the repository. -/
def linkedRepository? (w : Workspace) (link : FileTree) : Option String := do
  let folder ← Text.dropHead? "gitdir: ".toList (← firstLine? (some link))
  let folder := String.ofList folder
  let line ← firstLine? (w.get? (Path.join folder "commondir"))
  some (if line.head? = some '.' then Path.join folder (.ofList line) else .ofList line)

def excludedOf (w : Workspace) (repository : FileTree) : IgnoreFile :=
  match repository with
  | .folder _ => .ofTree (repository.at? ["info", "exclude"])
  | .file _ =>
    match linkedRepository? w repository with
    | none => []
    | some path => .ofTree (w.get? (Path.join path "info/exclude"))

def ofFolder (w : Workspace) (place : List String) (folder : FileTree) : IgnoreLevel where
  place := place
  isRepository := (folder.child? ".git").isSome || (folder.child? ".jj").isSome
  own := .ofTree (folder.child? ".ignore")
  shared := .ofTree (folder.child? ".gitignore")
  excluded := ((folder.child? ".git").map (excludedOf w)).getD []

def above (w : Workspace) (place : List String) : List IgnoreLevel :=
  (List.range (place.length + 1)).reverse.filterMap fun n =>
    (w.tree.at? (place.take n)).map (ofFolder w (place.take n))

def verdict? (file : IgnoreLevel → IgnoreFile) (place : List String) (isFolder : Bool)
    (l : IgnoreLevel) : Option Verdict :=
  (file l).verdict? ("/".intercalate (place.drop l.place.length)) isFolder

end IgnoreLevel

structure Ignoring where
  /-- Innermost first. -/
  levels : List IgnoreLevel
  user : IgnoreFile

namespace Ignoring

def upToRepository : List IgnoreLevel → List IgnoreLevel
  | [] => []
  | l :: outer => if l.isRepository then [l] else l :: upToRepository outer

def verdict? (i : Ignoring) (place : List String) (shown : String) (isFolder : Bool) :
    Option Verdict :=
  let found (levels : List IgnoreLevel) (file : IgnoreLevel → IgnoreFile) : Option Verdict :=
    levels.findSome? (IgnoreLevel.verdict? file place isFolder)
  let own := found i.levels (·.own)
  if i.levels.any (·.isRepository) then
    let inside := upToRepository i.levels
    own <|> found inside (·.shared) <|> found inside (·.excluded) <|> i.user.verdict? shown isFolder
  else own

def enter (i : Ignoring) (w : Workspace) (place : List String) (folder : FileTree) : Ignoring :=
  { i with levels := .ofFolder w place folder :: i.levels }

end Ignoring

end ThreatModel
