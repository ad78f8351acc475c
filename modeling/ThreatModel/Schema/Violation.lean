import ThreatModel.Json.Equality
import ThreatModel.Json.Printer
import ThreatModel.Pointer
import ThreatModel.Schema

namespace ThreatModel.Schema

inductive Violation where
  | wrongKind (value : Json) (kinds : List Kind)
  | notAmong (value : Json) (values : List Json)
  | below (value : Json) (bound : Json.Number) (strict : Bool)
  | above (value : Json) (bound : Json.Number) (strict : Bool)
  | notMultiple (value : Json) (unit : Json.Number)
  | tooShort (value : Json) (least : Nat)
  | tooLong (value : Json) (most : Nat)
  | unmatched (value : Json) (pattern : String)
  | tooFewItems (value : Json) (least : Nat)
  | tooManyItems (value : Json) (most : Nat)
  | repeatedItems (value : Json)
  | extraItems (items : List Json)
  | tooFewProperties (value : Json) (least : Nat)
  | tooManyProperties (value : Json) (most : Nat)
  | missing (name : String)
  | unexpected (names : List String)
  | refused (value : Json)
  | noneHolds (value : Json)
  | notOneHolds (value : Json)
  | severalHold (value : Json)
  | forbidden (value : Json) (schema : Json)
  /-- Of a rule that the schemas here do not have, told by its message. -/
  | other (message : String)
deriving Inhabited

structure Problem where
  path : List String := []
  violation : Violation
deriving Inhabited

def counted (n : Nat) (one many : String) : String :=
  .ofList (Text.decimal n) ++ " " ++ if n = 1 then one else many

def characters (n : Nat) : String := counted n "character" "characters"

def itemCount (n : Nat) : String := counted n "item" "items"

def propertyCount (n : Nat) : String := counted n "property" "properties"

/-- At most three choices are listed in full; of more, only the first two. -/
def choices : List String → String
  | [] => ""
  | [a] => a
  | [a, b] => a ++ " or " ++ b
  | [a, b, c] => a ++ ", " ++ b ++ " or " ++ c
  | a :: b :: rest => a ++ ", " ++ b ++ " or " ++ counted rest.length "other candidate" "other candidates"

def unexpectedText (found : List String) : String :=
  "(" ++ String.intercalate ", " found ++ (if found.length = 1 then " was" else " were") ++ " unexpected)"

def plainNumber (n : Json.Number) : String :=
  let x? : Option Binary64 := match n with
    | .float x => some x
    | .int i => Binary64.ofRatio? (i < 0) i.natAbs 1
  match x? with
  | none => .ofList n.chars
  | some x =>
    let text := Binary64.text { least := -400, greatest := 400, plus := false } x
    .ofList ((Text.dropTail? ['.', '0'] text).getD text)

def numberText (n : Json.Number) : String := .ofList n.chars

def boundText (value : Json) (side : String) (strict : Bool) (name : String) (bound : Json.Number) :
    String :=
  value.compact ++ " is " ++ side ++ " than " ++ (if strict then "or equal to " else "") ++ "the " ++
    name ++ " of " ++ numberText bound

namespace Violation

def message : Violation → String
  | wrongKind v [k] => v.compact ++ " is not of type " ++ (Json.string k.word).compact
  | wrongKind v ks =>
    v.compact ++ " is not of types " ++
      String.intercalate ", " ((Kind.all.filter ks.contains).map fun k => (Json.string k.word).compact)
  | notAmong v vs => v.compact ++ " is not one of " ++ choices (vs.map Json.compact)
  | below v bound strict => boundText v "less" strict "minimum" bound
  | above v bound strict => boundText v "greater" strict "maximum" bound
  | notMultiple v unit => v.compact ++ " is not a multiple of " ++ plainNumber unit
  | tooShort v n => v.compact ++ " is shorter than " ++ characters n
  | tooLong v n => v.compact ++ " is longer than " ++ characters n
  | unmatched v p => v.compact ++ " does not match \"" ++ p ++ "\""
  | tooFewItems v n => v.compact ++ " has less than " ++ itemCount n
  | tooManyItems v n => v.compact ++ " has more than " ++ itemCount n
  | repeatedItems v => v.compact ++ " has non-unique elements"
  | extraItems vs => "Additional items are not allowed " ++ unexpectedText (vs.map Json.compact)
  | tooFewProperties v n => v.compact ++ " has less than " ++ propertyCount n
  | tooManyProperties v n => v.compact ++ " has more than " ++ propertyCount n
  | missing name => (Json.string name).compact ++ " is a required property"
  | unexpected names =>
    "Additional properties are not allowed " ++ unexpectedText (names.map fun k => "'" ++ k ++ "'")
  | refused v => "False schema does not allow " ++ v.compact
  | noneHolds v => v.compact ++ " is not valid under any of the schemas listed in the 'anyOf' keyword"
  | notOneHolds v => v.compact ++ " is not valid under any of the schemas listed in the 'oneOf' keyword"
  | severalHold v => v.compact ++ " is valid under more than one of the schemas listed in the 'oneOf' keyword"
  | forbidden v s => s.compact ++ " is not allowed for " ++ v.compact
  | other message => message

/-- From level 1 on unexpected properties are excused, and from level 2 on missing ones. -/
def excusedAt (level : Nat) : Violation → Bool
  | unexpected _ => 1 ≤ level
  | missing _ => 2 ≤ level
  | _ => false

end Violation

namespace Problem

def under (name : String) (p : Problem) : Problem := { p with path := name :: p.path }

def message (p : Problem) : String :=
  p.violation.message ++ if p.path.isEmpty then "" else " at " ++ Pointer.ofPath p.path

end Problem

end ThreatModel.Schema
