import ThreatModel.SortedMap
import ThreatModel.Source

namespace ThreatModel

inductive StanceKind where
  | mitigation
  | exposure
  | acceptance
  | transfer
deriving DecidableEq

structure Stance where
  boundary : String
  component : String
  threat : String
  text : String
  refs : List String := []
  source : Source
deriving DecidableEq, Inhabited

structure Review where
  boundary : String
  component : String
  text : String
  refs : List String := []
  source : Source
deriving DecidableEq, Inhabited

inductive Element where
  | stance (kind : StanceKind) (stance : Stance)
  | review (review : Review)
deriving DecidableEq

namespace StanceKind

def word : StanceKind → String
  | mitigation => "mitigation"
  | exposure => "exposure"
  | acceptance => "acceptance"
  | transfer => "transfer"

end StanceKind

namespace Element

def word : Element → String
  | stance kind _ => kind.word
  | review _ => "review"

def boundary : Element → String
  | stance _ s => s.boundary
  | review r => r.boundary

def component : Element → String
  | stance _ s => s.component
  | review r => r.component

def threat? : Element → Option String
  | stance _ s => some s.threat
  | review _ => none

def text : Element → String
  | stance _ s => s.text
  | review r => r.text

def refs : Element → List String
  | stance _ s => s.refs
  | review r => r.refs

def source : Element → Source
  | stance _ s => s.source
  | review r => r.source

end Element

/-- Lists of elements by the identifier of their text. -/
abbrev ElementMap (α : Type) := SortedMap String (List α)

structure Elements where
  mitigations : ElementMap Stance := ∅
  exposures : ElementMap Stance := ∅
  acceptances : ElementMap Stance := ∅
  transfers : ElementMap Stance := ∅
  reviews : ElementMap Review := ∅
deriving DecidableEq, Inhabited

namespace Elements

def stances (es : Elements) : StanceKind → ElementMap Stance
  | .mitigation => es.mitigations
  | .exposure => es.exposures
  | .acceptance => es.acceptances
  | .transfer => es.transfers

def addStance (es : Elements) (kind : StanceKind) (key : String) (s : Stance) : Elements :=
  match kind with
  | .mitigation => { es with mitigations := es.mitigations.push key s }
  | .exposure => { es with exposures := es.exposures.push key s }
  | .acceptance => { es with acceptances := es.acceptances.push key s }
  | .transfer => { es with transfers := es.transfers.push key s }

def addReview (es : Elements) (key : String) (r : Review) : Elements :=
  { es with reviews := es.reviews.push key r }

/-- The elements in a fixed order of kinds, each kind by key and then as recorded. -/
def toList (es : Elements) : List Element :=
  es.mitigations.values.flatten.map (.stance .mitigation) ++
  es.exposures.values.flatten.map (.stance .exposure) ++
  es.acceptances.values.flatten.map (.stance .acceptance) ++
  es.transfers.values.flatten.map (.stance .transfer) ++
  es.reviews.values.flatten.map .review

def groupedCount {α : Type} (m : ElementMap α) : Nat :=
  m.values.foldl (fun n es => n + es.length) 0

def count (es : Elements) : Nat :=
  groupedCount es.mitigations + groupedCount es.exposures + groupedCount es.transfers +
    groupedCount es.acceptances + groupedCount es.reviews

def isEmpty (es : Elements) : Bool := es.toList.isEmpty

def merge (es fs : Elements) : Elements where
  mitigations := es.mitigations.mergeWith (· ++ ·) fs.mitigations
  exposures := es.exposures.mergeWith (· ++ ·) fs.exposures
  acceptances := es.acceptances.mergeWith (· ++ ·) fs.acceptances
  transfers := es.transfers.mergeWith (· ++ ·) fs.transfers
  reviews := es.reviews.mergeWith (· ++ ·) fs.reviews

end Elements

end ThreatModel
