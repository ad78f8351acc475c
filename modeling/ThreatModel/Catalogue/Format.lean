import ThreatModel.Catalogue
import ThreatModel.Xml.Format

namespace ThreatModel.Catalogue

open Text

def allText (x : Xml) : String := String.intercalate " " x.texts

def trimmed (s : String) : String := .ofList (trim s.toList)

def childText (x : Xml) (name : String) : String := trimmed (((x.child? name).map allText).getD "")

def listed (x : Xml) (list item : String) : List Xml :=
  ((x.child? list).map (·.children item)).getD []

def relationship (x : Xml) : Relationship where
  form := childText x "Relationship_Target_Form"
  nature := childText x "Relationship_Nature"
  target := childText x "Relationship_Target_ID"
  views := (listed x "Relationship_Views" "Relationship_View_ID").map (trimmed <| allText ·)

def clean (s : String) : String := .ofList (cleanText s.toList)

def extendedText (x : Xml) : String :=
  match x.children "Text" with
  | [] => allText x
  | texts => String.intercalate "." (texts.map allText)

/-- The summary and the longer description, which stands inside or beside the description. -/
def description? (x : Xml) : Option String := do
  let d ← x.child? "Description"
  let summary := clean (allText ((d.child? "Description_Summary").getD d))
  let extended? := (d.child? "Extended_Description").orElse fun _ => x.child? "Extended_Description"
  let extended := clean ((extended?.map extendedText).getD "")
  pure (if extended.isEmpty then summary else summary ++ " " ++ extended)

def item (x : Xml) : Item where
  id := (x.attribute? "ID").getD ""
  name := (x.attribute? "Name").getD ""
  description := description? x
  relationships := (listed x "Relationships" "Relationship").map relationship

def ofText (text : String) : Except CatalogueError Catalogue :=
  match Xml.ofText? text with
  | none => .error .notXml
  | some root =>
    if root.name? != some "Weakness_Catalog" then .error (.missing "Weakness_Catalog")
    else
      let weaknesses := (listed root "Weaknesses" "Weakness").map item
      if weaknesses.isEmpty then .error (.missing "Weaknesses")
      else .ok {
        weaknesses
        categories := (listed root "Categories" "Category").map item
        views := (listed root "Views" "View").map item }

end ThreatModel.Catalogue
