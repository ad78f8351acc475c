import ThreatModel.Document.Coverage
import ThreatModel.Document.Outline
import ThreatModel.Json
import ThreatModel.Text.Blank
import ThreatModel.Text.Column
import ThreatModel.Text.Decimal

namespace ThreatModel

open Text

namespace Coverage

def idWidth : Nat := 30
def nameWidth : Nat := 40

def line (id name status : List Char) (counts : List (List Char)) : String :=
  .ofList ([' '].intercalate
    ([alignLeft idWidth id, alignLeft nameWidth name, alignLeft 12 status] ++
      counts.map (alignRight 4)))

def header : String :=
  line "THREAT".toList "NAME".toList "STATUS".toList
    (["MIT", "EXP", "TRA", "ACC"].map String.toList)

def rule : String := .ofList (List.replicate 104 '-')

def row (c : Coverage) : String :=
  line (shorten idWidth c.id.toList) (shorten nameWidth c.name.toList) c.status.word.toList
    ([c.mitigations, c.exposures, c.transfers, c.acceptances].map decimal)

def toJson (c : Coverage) : Json :=
  .object [("id", .string c.id), ("name", .string c.name), ("mitigations", .nat c.mitigations),
    ("exposures", .nat c.exposures), ("transfers", .nat c.transfers),
    ("acceptances", .nat c.acceptances)]

end Coverage

def OutlineNode.line (n : OutlineNode) : String :=
  .ofList (trimRight (List.replicate (2 * n.depth) ' ' ++ n.id.toList ++ ' ' :: n.name.toList))

namespace Document

def coverageTable (d : Document) : List String :=
  match d.coverage with
  | [] => ["No threats referenced."]
  | rows => Coverage.header :: Coverage.rule :: rows.map Coverage.row

def coverageJson (d : Document) : Json := .array (d.coverage.map Coverage.toJson)

def outlineLines (d : Document) : List String := d.outline.map OutlineNode.line

def treeJson (d : Document) : Json := .ofMap .ofStrings d.threatTree

end Document

end ThreatModel
