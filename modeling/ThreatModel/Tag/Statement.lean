import ThreatModel.Dataflow
import ThreatModel.Element
import ThreatModel.Entry
import ThreatModel.Tag
import ThreatModel.Text.Pattern

namespace ThreatModel

inductive Subject where
  | boundary (id : String)
  | component (boundary id : String)
  | threat (id : String)
deriving DecidableEq

/-- What a tag says, with texts in one-space form and places as they are spelled. -/
inductive Statement where
  | naming (subject : Subject) (name : String)
  | describing (subject : Subject) (text : String)
  | connecting (origin target : Place) (direction : Direction) (label : Option String)
  | reviewing (place : Place) (text : String)
  | standing (kind : StanceKind) (place : Place) (threat text : String)
deriving DecidableEq

namespace Statement

open Text

def spaced (cs : List Char) : String := .ofList (respace cs)

def isPathChar (c : Char) : Bool := isWordChar c || c = '/' || c = '.' || c = '-'

def spelling (p : Char → Bool) : Pattern String := do
  let at? ← Pattern.maybe (Pattern.char '@')
  let cs ← Pattern.run p
  pure (spaced (if at?.isSome then '@' :: cs else cs))

def place : Pattern Place := do
  let boundary ← spelling isWordChar
  Pattern.char ':'
  let component ← spelling isPathChar
  pure ⟨boundary, component⟩

def entryClass : Pattern EntryClass :=
  Pattern.oneOf ([EntryClass.boundary, .component, .threat].map fun c =>
    (fun _ => c) <$> Pattern.keyword c.word)

/-- A component needs both identifiers; the part after the colon is unused otherwise. -/
def subject? (cls : EntryClass) (id : List Char) (part : Option (List Char)) : Option Subject :=
  let id := Identifier.ofText (spaced id)
  match cls with
  | .boundary => some (.boundary id)
  | .threat => some (.threat id)
  | .component => part.map fun cs => .component id (Identifier.ofText (.ofList cs))

def subjectAnd (kind : TagKind) (joint : String) : Pattern (Option Subject × String) := do
  Pattern.keyword kind.display
  Pattern.gap
  let cls ← entryClass
  Pattern.gap
  Pattern.char '@'
  let id ← Pattern.run isWordChar
  let part ← Pattern.maybe do
    Pattern.char ':'
    Pattern.char '@'
    Pattern.run isPathChar
  Pattern.gap
  Pattern.keyword joint
  Pattern.gap
  let text ← Pattern.remainder
  pure (subject? cls id part, spaced text)

def naming? (cs : List Char) : Option Statement := do
  let (subject, name) ← (subjectAnd .aliases "to").readAll? cs
  pure (.naming (← subject) name)

def describing? (cs : List Char) : Option Statement := do
  let (subject, text) ← (subjectAnd .describes "as").readAll? cs
  pure (.describing (← subject) text)

def connectsTag : Pattern Statement := do
  Pattern.keyword TagKind.connects.display
  Pattern.gap
  let origin ← place
  Pattern.gap
  let direction ← Pattern.orElse ((fun _ => Direction.oneWay) <$> Pattern.keyword "to")
    ((fun _ => Direction.bothWays) <$> Pattern.keyword "with")
  Pattern.gap
  let target ← place
  let label ← Pattern.maybe do
    Pattern.gap
    Pattern.keyword "as"
    Pattern.gap
    Pattern.remainder
  pure (.connecting origin target direction (label.map spaced))

def reviewTag : Pattern Statement := do
  Pattern.keyword TagKind.reviews.display
  Pattern.gap
  let spot ← place
  Pattern.gap
  let text ← Pattern.remainder
  pure (.reviewing spot (spaced text))

def withText : Pattern (List Char) := do
  Pattern.gap
  Pattern.keyword "with"
  Pattern.gap
  Pattern.remainder

def placeFirst (kind : TagKind) (stance : StanceKind) (joint : String) : Pattern Statement := do
  Pattern.keyword kind.display
  Pattern.gap
  let spot ← place
  Pattern.gap
  Pattern.keyword joint
  Pattern.gap
  let (threat, text) ← Pattern.upTo withText
  pure (.standing stance spot (spaced threat) (spaced text))

def threatFirst (kind : TagKind) (stance : StanceKind) : Pattern Statement := do
  Pattern.keyword kind.display
  Pattern.gap
  let (threat, spot, text) ← Pattern.upTo do
    Pattern.gap
    Pattern.keyword "to"
    Pattern.gap
    let spot ← place
    let text ← withText
    pure (spot, text)
  pure (.standing stance spot (spaced threat) (spaced text))

def ofText? (kind : TagKind) (text : String) : Option Statement :=
  let cs := text.toList
  match kind with
  | .aliases => naming? cs
  | .describes => describing? cs
  | .connects => connectsTag.readAll? cs
  | .reviews => reviewTag.readAll? cs
  | .mitigates => (placeFirst .mitigates .mitigation "against").readAll? cs
  | .exposes => (placeFirst .exposes .exposure "to").readAll? cs
  | .transfers => (threatFirst .transfers .transfer).readAll? cs
  | .accepts => (threatFirst .accepts .acceptance).readAll? cs

end Statement

end ThreatModel
