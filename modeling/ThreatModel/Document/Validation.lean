import ThreatModel.Document.Format
import ThreatModel.Document.References
import ThreatModel.Schema.Check

namespace ThreatModel.Document

/-- The problems of a value besides those of the schema, of which there are `found`. References are
followed in documents only; a value that the schema has nothing against, and that is no document
all the same, is one problem. -/
def furtherProblems (found : Nat) (v : Json) : Nat :=
  match fromJson? v with
  | some d => d.referenceIssues.length
  | none => if found = 0 then 1 else 0

/-- The number of problems in a text, if it is JSON. What a schema has against values is given. -/
def problemCount? (against : Json → List Schema.Problem) (level : Nat) (text : String) :
    Option Nat := do
  let v ← Json.ofText? text
  let found := (Outcome.ofProblems level (against v)).problems.length
  some (found + furtherProblems found v)

end ThreatModel.Document
