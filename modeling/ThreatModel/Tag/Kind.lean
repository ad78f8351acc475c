import ThreatModel.Text.Lowercase

namespace ThreatModel

inductive TagKind where
  | aliases
  | describes
  | connects
  | reviews
  | mitigates
  | exposes
  | transfers
  | accepts
deriving DecidableEq

namespace TagKind

def all : List TagKind :=
  [aliases, describes, connects, reviews, mitigates, exposes, transfers, accepts]

def word : TagKind → String
  | aliases => "alias"
  | describes => "describe"
  | connects => "connects"
  | reviews => "review"
  | mitigates => "mitigates"
  | exposes => "exposes"
  | transfers => "transfers"
  | accepts => "accepts"

def display (k : TagKind) : String := "@" ++ k.word

def ofWord? (s : String) : Option TagKind :=
  all.find? fun k => Text.lowercase s.toList = k.word.toList

/-- In a batch, names are given first and descriptions last. -/
def rank : TagKind → Nat
  | aliases => 0
  | describes => 2
  | _ => 1

end TagKind

end ThreatModel
