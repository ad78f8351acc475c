namespace ThreatModel

structure Settings where
  project : String := "default"
  output : Option String := none
  excludes : List String := []
  /-- Comment markers; without any, the usual ones. -/
  markers : List String := []
  /-- Whether the first tag that cannot be applied stops the run. -/
  strict : Bool := false
  libraries : List String := []
deriving DecidableEq, Inhabited

structure ValidationSettings where
  relax : Nat := 0
  schema : Option String := none
deriving DecidableEq, Inhabited

structure Config where
  settings : Settings := {}
  validation : ValidationSettings := {}
deriving DecidableEq, Inhabited

def Config.outputPath (c : Config) (project : String) : String :=
  c.settings.output.getD (project ++ ".threatspec.json")

end ThreatModel
