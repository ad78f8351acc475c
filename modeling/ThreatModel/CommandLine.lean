namespace ThreatModel

inductive Command where
  | parse (paths : List String) (project out : Option String) (libraries : List String)
  | openApi (files : List String) (project out : Option String)
  | validate (files : List String) (schema : Option String) (relax : Nat)
  | convert (files : List String) (project out : Option String)
  /-- Count the references of indexed models that lead nowhere. -/
  | check (files : List String)
  | report (files : List String) (tree json : Bool)
  | importCatalogue (file : String) (faultPatterns : Bool) (out : Option String)
  | init (force : Bool)
deriving DecidableEq

structure Invocation where
  folder : String := "."
  config : Option String := none
  command : Command
deriving DecidableEq

end ThreatModel
