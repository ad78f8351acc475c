import ThreatModel.Entry
import ThreatModel.Text.Blank
import ThreatModel.Text.Lowercase

namespace ThreatModel

structure Catalogue.Relationship where
  form : String := ""
  nature : String := ""
  target : String := ""
  views : List String := []
deriving DecidableEq, Inhabited

structure Catalogue.Item where
  id : String := ""
  name : String := ""
  description : Option String := none
  relationships : List Catalogue.Relationship := []
deriving DecidableEq, Inhabited

structure Catalogue where
  weaknesses : List Catalogue.Item
  categories : List Catalogue.Item := []
  views : List Catalogue.Item := []
deriving DecidableEq, Inhabited

inductive CatalogueError where
  | notXml
  | missing (element : String)
  | noFaultPatternView
deriving DecidableEq, Inhabited

namespace CatalogueError

def message : CatalogueError → String
  | notXml => "Invalid CWE XML"
  | missing element => "Not a CWE catalogue: missing <" ++ element ++ ">"
  | noFaultPatternView => "The catalogue has no Software Fault Pattern (SFP) Clusters view"

end CatalogueError

namespace Catalogue

open Text

def isAsciiAlphanumeric (c : Char) : Bool :=
  ('a' ≤ c && c ≤ 'z') || ('A' ≤ c && c ≤ 'Z') || ('0' ≤ c && c ≤ '9')

def isNameChar (c : Char) : Bool := isAsciiAlphanumeric c || c = '_' || c = ' ' || c = '-'

def slugChar (c : Char) : Char :=
  if c = ' ' || c = '-' then '_' else if 'A' ≤ c && c ≤ 'Z' then Char.ofNat (c.toNat + 32) else c

def slug (name : List Char) : List Char := (name.filter isNameChar).map slugChar

def weaknessId (id name : String) : String := "@cwe_" ++ id ++ "_" ++ .ofList (slug name.toList)

/-- The name of a category without the cluster that stands before a colon. -/
def categoryName (name : String) : String :=
  match name.toList.dropWhile (· != ':') with
  | [] => name
  | _ :: rest => .ofList (trim rest)

def categoryId (name : String) : String := "@" ++ .ofList (slug (categoryName name).toList)

def isTextChar (c : Char) : Bool :=
  isAsciiAlphanumeric c || c = '_' || c = ' ' || c = '-' || c = ';' || c = ':' || c = '.' || c = ','

/-- A text of plain characters, with single spaces for all others. -/
def cleanText (cs : List Char) : List Char :=
  unwords ((splitWhen (fun c => c = ' ' || !isTextChar c) cs).filter (!·.isEmpty))

namespace Item

def references (i : Item) : List String :=
  ["CWE " ++ i.id, "https://cwe.mitre.org/data/definitions/" ++ i.id ++ ".html"]

def toThreat (i : Item) (name : String) (parent : Option String) : Entry where
  name := name
  description := i.description.getD "No description available."
  references := i.references
  parent := parent

end Item

end Catalogue

end ThreatModel
