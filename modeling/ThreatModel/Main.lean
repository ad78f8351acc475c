import ThreatModel.CommandLine.Run
import Std.Time.DateTime.Timestamp

namespace ThreatModel.Main

def pathText (place : List String) : String := "/" ++ String.intercalate "/" place

def fileTree (names : List String) (content : ByteArray) : FileTree :=
  FileTree.put (.file content) names none

mutual

/-- An entry of a folder. Links, and what cannot be read, are left out; of a repository only its
ignore file is read. -/
partial def readEntry (entry : IO.FS.DirEntry) : IO (Option (String × FileTree)) := do
  try
    match (← entry.path.symlinkMetadata).type with
    | .file => return some (entry.fileName, .file (← IO.FS.readBinFile entry.path))
    | .dir =>
      if entry.fileName = ".git" then
        let content ← try IO.FS.readBinFile (entry.path / "info" / "exclude")
          catch _ => pure ByteArray.empty
        return some (entry.fileName, fileTree ["info", "exclude"] content)
      else return some (entry.fileName, .folder (← readEntries (← entry.path.readDir)))
    | _ => return none
  catch _ => return none

partial def readEntries (entries : Array IO.FS.DirEntry) : IO (List (String × FileTree)) := do
  return ((← entries.toList.mapM readEntry).filterMap id).mergeSort fun a b => a.1 ≤ b.1

end

def readPlace (place : List String) : IO (Option FileTree) := do
  try
    let path ← IO.FS.realPath (pathText place)
    if ← path.isDir then return some (.folder (← readEntries (← path.readDir)))
    else return some (.file (← IO.FS.readBinFile path))
  catch _ => return none

def load (tree : FileTree) (place : List String) : IO FileTree := do
  if (tree.at? place).isSome then return tree
  match ← readPlace place with
  | none => return tree
  | some new => return FileTree.put new place (some tree)

def loadFile (tree : FileTree) (place : List String) : IO FileTree := do
  try
    return FileTree.put (.file (← IO.FS.readBinFile (pathText place))) place (some tree)
  catch _ => return tree

def placeOf (current : List String) (path : String) : List String :=
  let follow (place : List String) (piece : List Char) : List String :=
    if Path.isIdle piece then place
    else if piece = ['.', '.'] then place.dropLast
    else place ++ [.ofList piece]
  (Path.pieces path).foldl follow (if Path.isAbsolute path then [] else current)

def ignorePlaces (current : List String) : List (List String) :=
  (List.range current.length).flatMap fun n =>
    [[".ignore"], [".gitignore"], [".git"], [".git", "HEAD"], [".git", "info", "exclude"]].map
      (current.take n ++ ·)

def homeFiles : List String :=
  [".threatspec/config.toml", ".gitconfig", ".config/git/config", ".config/git/ignore"]

def pathsIn (arg : String) : List String :=
  let cs := arg.toList
  [arg, .ofList (cs.drop 2), .ofList ((cs.dropWhile (· ≠ '=')).drop 1)].filter (!·.isEmpty)

def pathsOf (w : Workspace) (i : Invocation) : List String :=
  match CommandLine.configOf w i with
  | .error _ => []
  | .ok c =>
    c.settings.libraries.map (Path.join i.folder) ++ c.validation.schema.toList ++
      (c.settings.output.map (Path.join i.folder)).toList

mutual

def changesAt (place : List String) (old : Option FileTree) :
    FileTree → List (List String × ByteArray)
  | .file content =>
    match old with
    | some (.file before) => if before == content then [] else [(place, content)]
    | _ => [(place, content)]
  | .folder entries => changesAmong place old entries

def changesAmong (place : List String) (old : Option FileTree) :
    List (String × FileTree) → List (List String × ByteArray)
  | [] => []
  | (name, t) :: rest =>
    changesAt (place ++ [name]) (old.bind (·.child? name)) t ++ changesAmong place old rest

end

def usage : String :=
  let names := CommandLine.commandForms.map (·.name)
  "Usage: threatspec [OPTIONS] <COMMAND>\n\nCommands: " ++ String.intercalate ", " names

def run (args : List String) : IO UInt32 := do
  let current := placeOf [] (← IO.currentDir).toString
  let home := (← IO.getEnv "HOME").getD "."
  let named := (homeFiles.map (Path.join home) ++ args.flatMap pathsIn).map (placeOf current)
  let tree ← (ignorePlaces current).foldlM loadFile (.folder [])
  let tree ← (current :: named).foldlM load tree
  let seen : Workspace := { tree, current, home }
  let w ← match CommandLine.read args with
    | .error _ => pure seen
    | .ok i => do
      let tree ← ((pathsOf seen i).map (placeOf current)).foldlM load tree
      pure { seen with tree }
  let now ← Std.Time.Timestamp.now
  let ending := CommandLine.run w now.toMillisecondsSinceUnixEpoch.val args
  for (place, content) in changesAt [] (some w.tree) ending.workspace.tree do
    IO.FS.createDirAll (pathText place.dropLast)
    IO.FS.writeBinFile (pathText place) content
  IO.print ending.output
  if (CommandLine.read args).toOption.isNone then IO.eprintln usage
  match ending.error with
  | none => pure ()
  | some text => IO.eprintln ("Error: " ++ text)
  return ending.exit.toUInt32

end ThreatModel.Main

def main (args : List String) : IO UInt32 := ThreatModel.Main.run args
