import ThreatModel.Config.Format
import ThreatModel.Workspace

namespace ThreatModel

inductive ConfigError where
  | unreadable (path : String)
  | malformed (path : String)
deriving DecidableEq

namespace ConfigError

def message : ConfigError → String
  | unreadable path => "Failed to read config file: " ++ path
  | malformed path => "Failed to parse config file: " ++ path

end ConfigError

namespace Config

def ofFile (w : Workspace) (path : String) : Except ConfigError Config :=
  match w.text? path with
  | none => .error (.unreadable path)
  | some text => (ofText? text).elim (.error (.malformed path)) .ok

def usualPath (folder : String) : String := Path.join folder ".threatspec/config.toml"

def candidates (w : Workspace) (folder : String) : List String :=
  [usualPath folder, Path.join folder "threatspec.toml", usualPath w.home]

def ofFolder (w : Workspace) (folder : String) : Except ConfigError Config :=
  ((candidates w folder).find? w.hasPath).elim (.ok {}) (ofFile w)

end Config

end ThreatModel
