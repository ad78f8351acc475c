import ThreatModel.Source
import ThreatModel.Tag.Kind
import ThreatModel.Text.Keyword
import ThreatModel.Text.Blank
import ThreatModel.Text.Letter

namespace ThreatModel

structure Tag where
  kind : TagKind
  /-- The whole tag from its `@` on, in one-space form. -/
  text : String
  source : Source
deriving DecidableEq

/-- The marks that start a comment, longest first. -/
structure CommentStyle where
  markers : List (List Char)

namespace CommentStyle

open Text

def byteLength (cs : List Char) : Nat := cs.foldl (fun n c => n + c.utf8Size) 0

def ofMarkers (ms : List String) : CommentStyle where
  markers :=
    (((ms.map (trim ·.toList)).filter (!·.isEmpty)).mergeSort
      fun m n => byteLength n ≤ byteLength m).eraseReps

def usual : CommentStyle := ofMarkers ["//", "/*", "*", "#", "--", "\"\"\"", "'''"]

def dropMarker? (style : CommentStyle) (cs : List Char) : Option (List Char) :=
  (style.markers.findSome? fun m => dropHead? m cs).map trimLeft

/-- Drops markers for as long as the text gets shorter. -/
def dropMarkers (style : CommentStyle) (cs : List Char) : List Char :=
  match style.dropMarker? cs with
  | none => cs
  | some rest => if rest.length < cs.length then dropMarkers style rest else cs
termination_by cs.length

def content (style : CommentStyle) (line : List Char) : List Char := style.dropMarkers (trim line)

end CommentStyle

namespace Tag

open Text

def dropClose (cs : List Char) : List Char :=
  match dropTail? ['*', '/'] (trimRight cs) with
  | some rest => trimRight rest
  | none => trimRight cs

/-- The kind whose word, in any case, follows the `@` at the start, and the word as it is written.
The word has to end there. -/
def opening? : List Char → Option (TagKind × List Char)
  | '@' :: cs => TagKind.all.findSome? fun kind =>
      (dropKeyword? kind.word.toList cs).bind fun rest =>
        if rest.head?.any isWordChar then none
        else some (kind, cs.take kind.word.length)
  | _ => none

def opens (cs : List Char) : Bool := (opening? cs).isSome

def ofText? (style : CommentStyle) (text : List Char) (source : Source) : Option Tag := do
  let cs := style.content text
  let (_, word) ← opening? cs
  let kind ← TagKind.ofWord? (.ofList word)
  some ⟨kind, .ofList (respace (dropClose cs)), source⟩

def lineFunction : String := "universal"

def ofLine? (style : CommentStyle) (path : String) (number : Nat) (line : List Char) : Option Tag :=
  ofText? style line ⟨path, number, lineFunction⟩

/-- A line as it takes part in a tag: no markers before it, no end of a comment after it. -/
def piece (style : CommentStyle) (line : List Char) : List Char := dropClose (style.content line)

/-- Adds the following lines to `text` for as long as it ends in a backslash, and gives the lines
that are left. -/
def continued (style : CommentStyle) (text : List Char) :
    List (List Char × Nat) → List Char × List (List Char × Nat)
  | [] => ((dropTail? ['\\'] text).elim text trimRight, [])
  | next :: more =>
    match dropTail? ['\\'] text with
    | none => (text, next :: more)
    | some head => continued style (trimRight head ++ ' ' :: piece style next.1) more

theorem length_continued (style : CommentStyle) (text : List Char) (ls : List (List Char × Nat)) :
    (continued style text ls).2.length ≤ ls.length := by
  induction ls generalizing text with
  | nil => simp [continued]
  | cons next more ih =>
    simp only [continued]
    split
    · exact Nat.le_refl _
    · exact Nat.le_trans (ih _) (Nat.le_succ _)

/-- The tags of numbered lines. A tag belongs to the line on which it starts. -/
def ofLines (style : CommentStyle) (path : String) : List (List Char × Nat) → List Tag
  | [] => []
  | (line, number) :: rest =>
    if opens (piece style line) then
      let joined := continued style (piece style line) rest
      (ofLine? style path number joined.1).toList ++ ofLines style path joined.2
    else ofLines style path rest
termination_by ls => ls.length
decreasing_by
  · exact Nat.lt_succ_of_le (length_continued style (piece style line) rest)
  · exact Nat.lt_succ_self _

def ofFile (style : CommentStyle) (path : String) (text : String) : List Tag :=
  ofLines style path ((lines text.toList).zipIdx 1)

end Tag

end ThreatModel
