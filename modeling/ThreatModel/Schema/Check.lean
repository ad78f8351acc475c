import ThreatModel.Schema.Violation
import ThreatModel.SortedMap

namespace ThreatModel.Schema

def ensure (ok : Bool) (violation : Violation) : List Problem :=
  if ok then [] else [{ violation }]

def otherFields (names : List String) (patterns : List Pattern) (fields : List (String × Json)) :
    List (String × Json) :=
  fields.filter fun (k, _) => !(names.contains k || patterns.any fun p => p.regex.accepts k)

def positionName (i : Nat) : String := .ofList (Text.decimal i)

mutual

def problems (follow : String → Json → List Problem) : Schema → Json → List Problem
  | .ref target, v => follow target v
  | .rules ks, v => keywordsProblems follow ks v

def keywordsProblems (follow : String → Json → List Problem) :
    List Keyword → Json → List Problem
  | [], _ => []
  | k :: ks, v => keywordProblems follow k v ++ keywordsProblems follow ks v

def keywordProblems (follow : String → Json → List Problem) : Keyword → Json → List Problem
  | .kind ks, v => ensure (ks.any (·.admits v)) (.wrongKind v ks)
  | .values vs, v => ensure (vs.any (v.same ·)) (.notAmong v vs)
  | .least bound strict, .number n =>
    ensure (if strict then bound.less n else !n.less bound) (.below (.number n) bound strict)
  | .least .., _ => []
  | .greatest bound strict, .number n =>
    ensure (if strict then n.less bound else !bound.less n) (.above (.number n) bound strict)
  | .greatest .., _ => []
  | .multiple unit, .number n => ensure (n.isMultipleOf unit) (.notMultiple (.number n) unit)
  | .multiple _, _ => []
  | .minLength n, .string s => ensure (n ≤ s.length) (.tooShort (.string s) n)
  | .minLength _, _ => []
  | .maxLength n, .string s => ensure (s.length ≤ n) (.tooLong (.string s) n)
  | .maxLength _, _ => []
  | .pattern p, .string s => ensure (p.regex.accepts s) (.unmatched (.string s) p.shown)
  | .pattern _, _ => []
  | .items each, .array vs =>
    vs.zipIdx.flatMap fun (v, i) => (problems follow each v).map (.under (positionName i))
  | .items _, _ => []
  | .tuple each, .array vs => tupleProblems follow each 0 vs
  | .tuple _, _ => []
  | .itemsAfter n each, .array vs =>
    (vs.zipIdx.drop n).flatMap fun (v, i) => (problems follow each v).map (.under (positionName i))
  | .itemsAfter .., _ => []
  | .noItemsAfter n, .array vs => ensure (vs.length ≤ n) (.extraItems (vs.drop n))
  | .noItemsAfter _, _ => []
  | .minItems n, .array vs => ensure (n ≤ vs.length) (.tooFewItems (.array vs) n)
  | .minItems _, _ => []
  | .maxItems n, .array vs => ensure (vs.length ≤ n) (.tooManyItems (.array vs) n)
  | .maxItems _, _ => []
  | .uniqueItems, .array vs => ensure (Json.distinct vs) (.repeatedItems (.array vs))
  | .uniqueItems, _ => []
  | .properties named, .object fields => namedProblems follow named fields
  | .properties _, _ => []
  | .patterned matched, .object fields => matchedProblems follow matched fields
  | .patterned _, _ => []
  | .others names patterns each, .object fields =>
    (otherFields names patterns fields).flatMap fun (k, v) => (problems follow each v).map (.under k)
  | .others .., _ => []
  | .closed names patterns, .object fields =>
    let found := (otherFields names patterns fields).map (·.1)
    ensure found.isEmpty (.unexpected found)
  | .closed .., _ => []
  | .noProperties, .object ((_, v) :: _) => [{ violation := .refused v }]
  | .noProperties, _ => []
  | .required names, .object fields =>
    names.flatMap fun name => ensure (fields.lookup name).isSome (.missing name)
  | .required _, _ => []
  | .needs name names, .object fields =>
    if (fields.lookup name).isSome then
      names.flatMap fun name => ensure (fields.lookup name).isSome (.missing name)
    else []
  | .needs .., _ => []
  | .implies name whole, .object fields =>
    if (fields.lookup name).isSome then problems follow whole (.object fields) else []
  | .implies .., _ => []
  | .minProperties n, .object fields => ensure (n ≤ fields.length) (.tooFewProperties (.object fields) n)
  | .minProperties _, _ => []
  | .maxProperties n, .object fields => ensure (fields.length ≤ n) (.tooManyProperties (.object fields) n)
  | .maxProperties _, _ => []
  | .all parts, v => allProblems follow parts v
  | .any parts, v => ensure (holding follow parts v != 0) (.noneHolds v)
  | .exactlyOne parts, v =>
    match holding follow parts v with
    | 0 => [{ violation := .notOneHolds v }]
    | 1 => []
    | _ => [{ violation := .severalHold v }]
  | .never shown part, v => ensure (!(problems follow part v).isEmpty) (.forbidden v shown)

def tupleProblems (follow : String → Json → List Problem) :
    List Schema → Nat → List Json → List Problem
  | s :: ss, i, v :: vs =>
    (problems follow s v).map (.under (positionName i)) ++ tupleProblems follow ss (i + 1) vs
  | _, _, _ => []

def namedProblems (follow : String → Json → List Problem) :
    List (String × Schema) → List (String × Json) → List Problem
  | [], _ => []
  | (name, s) :: rest, fields =>
    (match fields.lookup name with
      | some v => (problems follow s v).map (.under name)
      | none => []) ++ namedProblems follow rest fields

def matchedProblems (follow : String → Json → List Problem) :
    List (Pattern × Schema) → List (String × Json) → List Problem
  | [], _ => []
  | (p, s) :: rest, fields =>
    (fields.filter fun (k, _) => p.regex.accepts k).flatMap
      (fun (k, v) => (problems follow s v).map (.under k)) ++ matchedProblems follow rest fields

def allProblems (follow : String → Json → List Problem) : List Schema → Json → List Problem
  | [], _ => []
  | s :: ss, v => problems follow s v ++ allProblems follow ss v

def holding (follow : String → Json → List Problem) : List Schema → Json → Nat
  | [], _ => 0
  | s :: ss, v => (if (problems follow s v).isEmpty then 1 else 0) + holding follow ss v

end

end ThreatModel.Schema

namespace ThreatModel

/-- A schema with the schemas that its references lead to. -/
structure Validator where
  schema : Schema
  targets : List (String × Schema) := []
deriving Inhabited

structure Outcome where
  problems : List String
  ignored : List String
deriving DecidableEq, Inhabited

namespace Outcome

def ofProblems (level : Nat) (found : List Schema.Problem) : Outcome :=
  let (ignored, problems) := found.partition (·.violation.excusedAt level)
  ⟨problems.map (·.message), ignored.map (·.message)⟩

def isValid (o : Outcome) : Bool := o.problems.isEmpty

end Outcome

namespace Validator

/-- The problems under the target of a reference, following at most `fuel` references in a row. -/
def follow (targets : List (String × Schema)) : Nat → String → Json → List Schema.Problem
  | 0, _, _ => []
  | fuel + 1, target, v =>
    match targets.lookup target with
    | none => []
    | some s => s.problems (follow targets fuel) v

/-- Between two references to the same schema a value is left for one of its parts. -/
def problems (validator : Validator) (v : Json) : List Schema.Problem :=
  let fuel := (validator.targets.length + 1) * (Json.depthLimit + 2)
  validator.schema.problems (follow validator.targets fuel) v

def outcome (validator : Validator) (level : Nat) (v : Json) : Outcome :=
  .ofProblems level (validator.problems v)

end Validator

end ThreatModel
