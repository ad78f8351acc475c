import ThreatModel.FileTree
import ThreatModel.Glob.Format

namespace ThreatModel

inductive Verdict where
  | ignored
  | kept
deriving DecidableEq

structure IgnoreRule where
  verdict : Verdict
  foldersOnly : Bool
  glob : Glob

namespace IgnoreRule

open Text

/-- A line without the blanks at its end. A backslash keeps one space there. -/
def trimEnd (line : List Char) : List Char :=
  if ['\\', ' '].isSuffixOf line then line else trimRight line

/-- What a line says about its glob at the front: the verdict, and whether it is tied to the
folder. -/
def dropFront : List Char → Verdict × Bool × List Char
  | '\\' :: '!' :: cs => (.ignored, false, '!' :: cs)
  | '\\' :: '#' :: cs => (.ignored, false, '#' :: cs)
  | '!' :: '/' :: cs => (.kept, true, cs)
  | '!' :: cs => (.kept, false, cs)
  | '/' :: cs => (.ignored, true, cs)
  | cs => (.ignored, false, cs)

def dropBack (cs : List Char) : Bool × List Char :=
  match cs.reverse with
  | '/' :: '\\' :: rest => (true, rest.reverse)
  | '/' :: rest => (true, rest.reverse)
  | _ => (false, cs)

/-- A glob without slashes is for any folder, and one for all below a folder is not for the folder
itself. -/
def widen (anchored : Bool) (cs : List Char) : List Char :=
  let cs := if anchored || cs.contains '/' || cs = ['*', '*'] then cs else "**/".toList ++ cs
  if "/**".toList.isSuffixOf cs then cs ++ "/*".toList else cs

def ofLine? (line : List Char) : Option IgnoreRule := do
  let line := trimEnd line
  if line.isEmpty || line.head? = some '#' then none
  else
    let (verdict, anchored, cs) := dropFront line
    let (foldersOnly, cs) := dropBack cs
    let options : Glob.Options := { stopsAtSlash := true, allowsOpenClass := true }
    let glob ← Glob.ofText? options (.ofList (widen anchored cs))
    some { verdict, foldersOnly, glob }

def applies (r : IgnoreRule) (path : String) (isFolder : Bool) : Bool :=
  (isFolder || !r.foldersOnly) && r.glob.matchesPath path

end IgnoreRule

abbrev IgnoreFile := List IgnoreRule

namespace IgnoreFile

open Text

def dropMarks (cs : List Char) : List Char := cs.dropWhile (· = '\ufeff')

def linesOf (content : ByteArray) : List (List Char) :=
  let pieces := splitWhen (· = 10) content.data.toList
  let texts := pieces.map fun bytes => String.fromUTF8? ⟨bytes.toArray⟩
  let lines := (texts.takeWhile (·.isSome)).filterMap (·.map (·.toList))
  let ended := pieces.length - 1
  (lines.take ended).map dropReturn ++ lines.drop ended

def ofContent (content : ByteArray) : IgnoreFile :=
  match linesOf content with
  | [] => []
  | first :: rest => (dropMarks first :: rest).filterMap IgnoreRule.ofLine?

def ofTree : Option FileTree → IgnoreFile
  | some (.file content) => ofContent content
  | _ => []

def verdict? (rules : IgnoreFile) (path : String) (isFolder : Bool) : Option Verdict :=
  (rules.reverse.find? fun r => r.applies path isFolder).map (·.verdict)

end IgnoreFile

end ThreatModel
