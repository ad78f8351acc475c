namespace ThreatModel

/-- An attribute; its space is the namespace that its name belongs to, if it has a prefix. -/
structure Xml.Attribute where
  space : Option String
  name : String
  value : String
deriving DecidableEq, Inhabited

inductive Xml where
  | text (s : String)
  | element (name : String) (attributes : List Xml.Attribute) (content : List Xml)
deriving Inhabited

namespace Xml

def content : Xml → List Xml
  | text _ => []
  | element _ _ content => content

def name? : Xml → Option String
  | text _ => none
  | element name _ _ => some name

def attribute? (name : String) : Xml → Option String
  | text _ => none
  | element _ attributes _ =>
    (attributes.find? fun a => a.space.isNone && a.name = name).map (·.value)

def children (name : String) (x : Xml) : List Xml := x.content.filter fun c => c.name? = some name

def child? (name : String) (x : Xml) : Option Xml := x.content.find? fun c => c.name? = some name

mutual

def texts : Xml → List String
  | text s => [s]
  | element _ _ content => contentTexts content

def contentTexts : List Xml → List String
  | [] => []
  | x :: xs => texts x ++ contentTexts xs

end

end Xml

end ThreatModel
