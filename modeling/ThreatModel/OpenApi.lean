import ThreatModel.Pointer
import ThreatModel.Tag
import ThreatModel.Yaml

namespace ThreatModel.OpenApi

def extensionHead : String := "x-threatspec"

def tagWord? (key : String) : Option (List Char) :=
  (Text.dropHead? extensionHead.toList key.toList).map (·.dropWhile (· = '-'))

/-- A text in an extension field, and the path to the object that has the field. -/
structure Extension where
  path : List String := []
  word : List Char
  text : String
deriving DecidableEq, Inhabited

namespace Extension

def under (name : String) (e : Extension) : Extension := { e with path := name :: e.path }

def tag? (file : String) (e : Extension) : Option Tag :=
  Tag.ofText? .usual ('@' :: e.word ++ ' ' :: e.text.toList)
    { file, line := 0, function := Pointer.ofPath e.path }

end Extension

mutual

def fieldTexts : Yaml → List String
  | .sequence items => itemsTexts items
  | v => v.scalarText?.toList

def itemsTexts : List Yaml → List String
  | [] => []
  | v :: vs => fieldTexts v ++ itemsTexts vs

end

mutual

/-- The extensions in a document, in order. Entries whose key is not a string are passed over. -/
def extensions : Yaml → List Extension
  | .mapping entries => entriesExtensions entries
  | .sequence items => itemsExtensions 0 items
  | .tagged _ v => extensions v
  | _ => []

def entriesExtensions : List (Yaml × Yaml) → List Extension
  | [] => []
  | (k, v) :: rest =>
    (match k.keyText? with
      | none => []
      | some key =>
        match tagWord? key with
        | some word => (fieldTexts v).map fun text => { word, text }
        | none => (extensions v).map (.under key)) ++ entriesExtensions rest

def itemsExtensions (i : Nat) : List Yaml → List Extension
  | [] => []
  | v :: vs =>
    (extensions v).map (.under (.ofList (Text.decimal i))) ++ itemsExtensions (i + 1) vs

end

def tags (file : String) (v : Yaml) : List Tag := (extensions v).filterMap (·.tag? file)

end ThreatModel.OpenApi
