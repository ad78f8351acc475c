import ThreatModel.Entry
import ThreatModel.Source
import ThreatModel.Tag.Kind

namespace ThreatModel

inductive TagError where
  | invalidPattern (kind : TagKind) (source : Source)
  /-- An identifier is given for a name that is one itself. -/
  | identifierConflict (cls : EntryClass) (name : String)
  | emptyIdentifier (cls : EntryClass) (name : String)
  | unknownBoundary (id : String) (source : Source)
  | unknownEntry (cls : EntryClass) (id : String) (source : Source)
deriving DecidableEq

namespace TagError

def message : TagError → String
  | invalidPattern kind source =>
    kind.display ++ " line contains an invalid pattern: " ++ source.location
  | identifierConflict cls name =>
    cls.word ++ " identifier was given, but " ++ cls.word ++ " '" ++ name ++
      "' is already an identifier"
  | emptyIdentifier cls name =>
    cls.word ++ " '" ++ name ++ "' has no letters or digits to build an identifier from"
  | unknownBoundary id source =>
    "unknown boundary identifier " ++ id ++ " in " ++ source.location
  | unknownEntry cls id source =>
    "unknown " ++ cls.word ++ " identifier " ++ id ++ " in " ++ source.location

end TagError

end ThreatModel
