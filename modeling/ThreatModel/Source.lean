import ThreatModel.Text.Decimal

namespace ThreatModel

structure Source where
  file : String := ""
  line : Nat := 0
  /-- The enclosing function, or what found the tag. -/
  function : String := ""
deriving DecidableEq, Inhabited

namespace Source

def location (s : Source) : String := s.file ++ "@" ++ .ofList (Text.decimal s.line)

end Source

end ThreatModel
