import ThreatModel.FileTree

namespace ThreatModel

inductive FileError where
  | notFound
  | exists
  | notAFolder
  | isAFolder
  | nameTooLong
  | nulInPath
deriving DecidableEq

namespace FileError

def message : FileError → String
  | notFound => "No such file or directory (os error 2)"
  | FileError.exists => "File exists (os error 17)"
  | notAFolder => "Not a directory (os error 20)"
  | isAFolder => "Is a directory (os error 21)"
  | nameTooLong => "File name too long (os error 36)"
  | nulInPath => "file name contained an unexpected NUL byte"

end FileError

structure Workspace where
  tree : FileTree
  current : List String
  home : String

namespace Workspace

def nameLimit : Nat := 255
def pathLimit : Nat := 4095

def start (w : Workspace) (path : String) : Except FileError (List String) :=
  if path.isEmpty then .error .notFound
  else if path.toList.contains '\x00' then .error .nulInPath
  else if pathLimit < path.utf8ByteSize then .error .nameTooLong
  else .ok (if Path.isAbsolute path then [] else w.current)

def folderAt (w : Workspace) (place : List String) : Except FileError (List String) :=
  if (w.tree.at? place).any (·.isFolder) then .ok place else .error .notAFolder

def follow (w : Workspace) (place : List String) (piece : List Char) :
    Except FileError (List String) := do
  let place ← w.folderAt place
  if Path.isIdle piece then return place
  if piece = ['.', '.'] then return place.dropLast
  let name := String.ofList piece
  if nameLimit < name.utf8ByteSize then throw .nameTooLong
  let inner := place ++ [name]
  if (w.tree.at? inner).isSome then return inner else throw .notFound

def followAll (w : Workspace) (place : List String) (pieces : List (List Char)) :
    Except FileError (List String) :=
  pieces.foldlM w.follow place

def resolve (w : Workspace) (path : String) : Except FileError (List String) := do
  w.followAll (← w.start path) (Path.pieces path)

def get? (w : Workspace) (path : String) : Option FileTree :=
  match w.resolve path with
  | .ok place => w.tree.at? place
  | .error _ => none

def hasPath (w : Workspace) (path : String) : Bool := (w.get? path).isSome

def text? (w : Workspace) (path : String) : Option String := (w.get? path).bind (·.text?)

/-- The folder that holds what a path names, the last piece, and whether slashes follow it. -/
def slot (w : Workspace) (path : String) : Except FileError (List String × List Char × Bool) := do
  let origin ← w.start path
  let reversed := (Path.pieces path).reverse
  match reversed.dropWhile (·.isEmpty) with
  | [] => return ([], ['.'], true)
  | last :: above =>
    let folder ← w.folderAt (← w.followAll origin above.reverse)
    return (folder, last, reversed.head?.any (·.isEmpty))

def isName (piece : List Char) : Bool := !(Path.isIdle piece || piece = ['.', '.'])

def put (w : Workspace) (place : List String) (new : FileTree) : Workspace :=
  { w with tree := FileTree.put new place (some w.tree) }

def write (w : Workspace) (path : String) (content : String) : Except FileError Workspace := do
  let (folder, last, slashed) ← w.slot path
  if slashed || !isName last then throw .isAFolder
  let name := String.ofList last
  if nameLimit < name.utf8ByteSize then throw .nameTooLong
  let place := folder ++ [name]
  if (w.tree.at? place).any (·.isFolder) then throw .isAFolder
  return w.put place (.file content.toUTF8)

def addFolder (w : Workspace) (path : String) : Except FileError Workspace := do
  let (folder, last, _) ← w.slot path
  if !isName last then return w
  let name := String.ofList last
  if nameLimit < name.utf8ByteSize then throw .nameTooLong
  match w.tree.at? (folder ++ [name]) with
  | none => return w.put (folder ++ [name]) (.folder [])
  | some t => if t.isFolder then return w else throw .exists

/-- Adds the first of the folders. Those that lead to it follow, and are added first where they are
missing. -/
def addFolders (w : Workspace) : List String → Except FileError Workspace
  | [] => .ok w
  | path :: above =>
    match w.addFolder path with
    | .error .notFound => do (← addFolders w above).addFolder path
    | result => result

def ensureFolder (w : Workspace) (path : String) : Except FileError Workspace :=
  if path.isEmpty then .ok w else w.addFolders (Path.ancestry (Path.pieces path).reverse)

end Workspace

end ThreatModel
