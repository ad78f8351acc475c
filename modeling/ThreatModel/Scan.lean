import ThreatModel.Scan.IgnoreLevel
import ThreatModel.Tag
import ThreatModel.Text.Lowercase

namespace ThreatModel

inductive ScanError where
  | notFound (path : String)
  | unreadable (path : String)
deriving DecidableEq

namespace ScanError

def message : ScanError → String
  | notFound path => "Path not found: " ++ path
  | unreadable path => "Failed to read file: " ++ path

end ScanError

structure Scan where
  excludes : List Glob
  style : CommentStyle

namespace Scan

def usualExcludes : List String := ["threatspec.toml", ".threatspec/**", "*.threatspec.json"]

/-- A scan with further excludes and with comment markers, or the usual markers where none are
given. Excludes that are no globs are left out. -/
def ofSettings (excludes markers : List String) : Scan where
  excludes := (usualExcludes ++ excludes).filterMap (Glob.ofText? {})
  style := if markers.isEmpty then .usual else .ofMarkers markers

def binaryExtensions : List String :=
  ["png", "jpg", "jpeg", "gif", "bmp", "ico", "webp", "tiff", "psd",
   "mp3", "mp4", "wav", "avi", "mkv", "mov", "flac", "ogg", "webm",
   "zip", "tar", "gz", "bz2", "xz", "7z", "rar", "dmg", "iso", "jar",
   "exe", "dll", "so", "dylib", "bin", "o", "a", "lib",
   "pdf", "doc", "docx", "xls", "xlsx", "ppt", "pptx", "odt",
   "ttf", "otf", "woff", "woff2", "eot",
   "db", "sqlite", "sqlite3", "lock",
   "class", "pyc", "pyo", "wasm", "rlib"]

def isBinary (name : String) : Bool :=
  (Path.extension? name).any fun e => binaryExtensions.contains (.ofList (Text.lowercase e.toList))

def pathOf (names : List String) : String := "/".intercalate names

/-- A glob excludes a file by its path below the scanned folder, or by its name alone. -/
def isExcluded (s : Scan) (names : List String) : Bool :=
  s.excludes.any fun g =>
    g.matchesPath (pathOf names) || (names.getLast?).any g.matchesPath

structure Walk where
  workspace : Workspace
  root : String
  place : List String

namespace Walk

def shown (k : Walk) (names : List String) : String := Path.join k.root (pathOf names)

def plain (k : Walk) (names : List String) : String :=
  let path := k.shown names
  ((Text.dropHead? ['.', '/'] path.toList).map String.ofList).getD path

def isHidden (name : String) : Bool := name.toList.head? = some '.'

def skips (k : Walk) (i : Ignoring) (names : List String) (name : String) (isFolder : Bool) :
    Bool :=
  match i.verdict? (k.place ++ names) (k.plain names) isFolder with
  | some .ignored => true
  | some .kept => false
  | none => isHidden name

mutual

def filesIn (k : Walk) (i : Ignoring) (names : List String) (name : String) :
    FileTree → List (List String × ByteArray)
  | .file content =>
    let names := names ++ [name]
    if k.skips i names name false then [] else [(names, content)]
  | .folder entries =>
    let names := names ++ [name]
    if k.skips i names name true then []
    else filesAmong k (i.enter k.workspace (k.place ++ names) (.folder entries)) names entries

def filesAmong (k : Walk) (i : Ignoring) (names : List String) :
    List (String × FileTree) → List (List String × ByteArray)
  | [] => []
  | (name, t) :: rest => filesIn k i names name t ++ filesAmong k i names rest

end

def files (k : Walk) : List (List String × ByteArray) :=
  match k.workspace.tree.at? k.place with
  | some (.folder entries) =>
    filesAmong k ⟨IgnoreLevel.above k.workspace k.place, .ofUser k.workspace⟩ [] entries
  | _ => []

end Walk

def folderTags (s : Scan) (k : Walk) : List Tag :=
  k.files.flatMap fun (names, content) =>
    if s.isExcluded names || (names.getLast?).any isBinary then []
    else
      match String.fromUTF8? content with
      | none => []
      | some text => Tag.ofFile s.style (k.shown names) text

/-- The path that stands for the standard input; a folder of that name is not walked. -/
def standardInput : String := "-"

def tags (s : Scan) (w : Workspace) (path : String) : Except ScanError (List Tag) :=
  match w.resolve path with
  | .error _ => .error (.notFound path)
  | .ok place =>
    match w.tree.at? place with
    | none => .error (.notFound path)
    | some (.file content) =>
      match String.fromUTF8? content with
      | none => .error (.unreadable path)
      | some text => .ok (Tag.ofFile s.style path text)
    | some (.folder _) =>
      .ok (if path = standardInput then [] else s.folderTags ⟨w, path, place⟩)

end Scan

end ThreatModel
