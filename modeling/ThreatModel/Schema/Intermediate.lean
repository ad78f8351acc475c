import ThreatModel.Schema.Check

namespace ThreatModel.Schema

def ofKind (k : Kind) : Schema := .rules [.kind [k]]

def text : Schema := ofKind .string

def count : Schema := .rules [.kind [.integer], .least (.int 0) false]

def closedRecord (required : List String) (properties : List (String × Schema)) : Schema :=
  .rules [.kind [.object], .required required, .properties properties,
    .closed (properties.map (·.1)) []]

def mapOf (each : Schema) : Schema := .rules [.kind [.object], .others [] [] each]

def listOf (each : Schema) : Schema := .rules [.kind [.array], .items each]

namespace Intermediate

def identifierPattern : Pattern where
  shown := "^@[^" ++ .ofList CharSet.spaces ++ "]+$"
  regex := .seq .start (.seq (.char '@') (.seq (.plus (.one CharSet.space.complement)) .finish))

def identifier : Schema := .rules [.kind [.string], .pattern identifierPattern]

def references : Schema := listOf text

def entry : Schema :=
  closedRecord ["name"]
    [("name", text), ("description", text), ("references", references), ("parent", text)]

def source : Schema :=
  closedRecord ["file", "line", "function"] [("file", text), ("line", count), ("function", text)]

def edge : Schema :=
  closedRecord ["type", "source"]
    [("type", .rules [.values [.string "uni", .string "bi"]]), ("name", text), ("source", source)]

def stance (word : String) : Schema :=
  closedRecord ["boundary", "component", "threat", word, "source"]
    [("boundary", identifier), ("component", identifier), ("threat", identifier), (word, text),
     ("refs", references), ("source", source)]

def review : Schema :=
  closedRecord ["boundary", "component", "review", "source"]
    [("boundary", identifier), ("component", identifier), ("review", text), ("refs", references),
     ("source", source)]

def project : Schema :=
  .rules [.kind [.object],
    .properties
      [("mitigations", mapOf (listOf (stance "mitigation"))),
       ("exposures", mapOf (listOf (stance "exposure"))),
       ("transfers", mapOf (listOf (stance "transfer"))),
       ("acceptances", mapOf (listOf (stance "acceptance"))),
       ("reviews", mapOf (listOf review))],
    .closed ["mitigations", "exposures", "transfers", "acceptances", "reviews"] []]

def specification : Schema :=
  closedRecord ["name", "version"]
    [("name", .rules [.kind [.string], .values [.string "ThreatSpec"]]), ("version", text)]

def times : Schema :=
  closedRecord ["created", "updated"] [("created", count), ("updated", count)]

def document : Schema :=
  closedRecord ["specification", "document", "boundaries", "components", "threats", "projects"]
    [("specification", specification), ("document", times), ("boundaries", mapOf entry),
     ("components", mapOf (mapOf entry)), ("threats", mapOf entry),
     ("dfd", mapOf (mapOf (mapOf (mapOf edge)))), ("projects", mapOf project)]

end Intermediate

end ThreatModel.Schema

namespace ThreatModel.Validator

def intermediate : Validator := { schema := Schema.Intermediate.document }

end ThreatModel.Validator
