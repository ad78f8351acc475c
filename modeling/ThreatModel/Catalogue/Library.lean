import ThreatModel.Catalogue
import ThreatModel.Document

namespace ThreatModel.Catalogue

def threats (c : Catalogue) : SortedMap String Entry :=
  .ofList (c.weaknesses.map fun w => (weaknessId w.id w.name, w.toThreat w.name none))

def faultPatternView : String := "Software Fault Pattern (SFP) Clusters"

def faultPatternRoot : String := "@sfp"

def categoryIds (c : Catalogue) : SortedMap String String :=
  .ofList (c.categories.map fun k => (k.id, categoryId k.name))

def hasMember (view category : Item) : Bool :=
  view.relationships.any fun r =>
    r.form = "Category" && r.nature = "HasMember" && r.target = category.id

def parentIn? (c : Catalogue) (view category : Item) : Option String :=
  (category.relationships.filter fun r => r.views.contains view.id).findSome? fun r =>
    c.categoryIds.get? r.target

/-- Categories with the threat identifiers of their parents: those at the top of the view, and then
those below another category. -/
def placedCategories (c : Catalogue) (view : Item) : List (Item × String) :=
  (c.categories.filter (hasMember view)).map (·, faultPatternRoot) ++
    c.categories.filterMap fun k => (c.parentIn? view k).map (k, ·)

/-- The first placed category that a weakness is a child of. -/
def weaknessParent? (placed : SortedMap String String) (weakness : Item) : Option String :=
  (weakness.relationships.filter fun r => r.form = "Category" && r.nature = "ChildOf").findSome?
    fun r => placed.get? r.target

/-- The categories of the clusters and the weaknesses in them; of threats with one identifier the
last stays. Weaknesses outside the clusters are left out. -/
def faultPatternThreats (c : Catalogue) : Except CatalogueError (SortedMap String Entry) :=
  match c.views.find? fun v => v.name = faultPatternView with
  | none => .error .noFaultPatternView
  | some view =>
    let idOf (k : Item) : String := (c.categoryIds.get? k.id).getD (categoryId k.name)
    let categories := c.placedCategories view
    let placed : SortedMap String String := .ofList (categories.map fun (k, _) => (k.id, idOf k))
    .ok <| .ofList <|
      categories.map (fun (k, parent) => (idOf k, k.toThreat (categoryName k.name) (some parent))) ++
      c.weaknesses.filterMap fun w => (weaknessParent? placed w).map fun parent =>
        (weaknessId w.id w.name, w.toThreat w.name (some parent))

def library (now : Int) (threats : SortedMap String Entry) : Document where
  times := ⟨now, now⟩
  threats := threats

end ThreatModel.Catalogue
