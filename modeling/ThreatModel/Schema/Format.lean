import ThreatModel.Json.Record
import ThreatModel.Schema.Meta

namespace ThreatModel.Schema

inductive ReadError where
  | notJson
  | invalid
deriving DecidableEq, Inhabited

def Pattern.ofText? (text : String) : Option Pattern := do
  pure { shown := .ofList (Regex.expandClasses false text.toList), regex := ← Regex.ofText? text }

def number? : Json → Option Json.Number
  | .number n => some n
  | _ => none

def count? : Json → Option Nat
  | .number (.int i) => some i.toNat
  | _ => none

def elements : Json → List Json
  | .array vs => vs
  | _ => []

def fieldsOf : Json → List (String × Json)
  | .object fields => fields
  | _ => []

def names (v : Json) : List String := (elements v).filterMap Json.string?

def kinds (v : Json) : List Kind :=
  match v with
  | .string w => (Kind.ofWord? w).toList
  | v => (names v).filterMap Kind.ofWord?

def keyword (v : Json) (name : String) (f : Json → Option Keyword) : List Keyword :=
  ((v.field? name).bind f).toList

def isTrue : Option Json → Bool
  | some (.bool true) => true
  | _ => false

def isFalse : Option Json → Bool
  | some (.bool false) => true
  | _ => false

def plainKeywords (v : Json) : List Keyword :=
  keyword v "type" (some <| .kind <| kinds ·) ++
  keyword v "enum" (some <| .values <| elements ·) ++
  keyword v "minimum"
    (fun n => (number? n).map (.least · (isTrue (v.field? "exclusiveMinimum")))) ++
  keyword v "maximum"
    (fun n => (number? n).map (.greatest · (isTrue (v.field? "exclusiveMaximum")))) ++
  keyword v "multipleOf" (fun n => (number? n).map .multiple) ++
  keyword v "minLength" (fun n => (count? n).map .minLength) ++
  keyword v "maxLength" (fun n => (count? n).map .maxLength) ++
  keyword v "minItems" (fun n => (count? n).map .minItems) ++
  keyword v "maxItems" (fun n => (count? n).map .maxItems) ++
  keyword v "minProperties" (fun n => (count? n).map .minProperties) ++
  keyword v "maxProperties" (fun n => (count? n).map .maxProperties) ++
  keyword v "required" (some <| .required <| names ·) ++
  (if isTrue (v.field? "uniqueItems") then [.uniqueItems] else [])

def partsOf (v : Json) (name : String) : List Json := ((v.field? name).map elements).getD []

def namedPartsOf (v : Json) (name : String) : List (String × Json) :=
  ((v.field? name).map fieldsOf).getD []

/-- Reads a value with at most `depth` schemas inside each other. Beside a reference no keyword
counts. -/
def ofJson? : Nat → Json → Option Schema
  | 0, _ => none
  | depth + 1, v =>
    match (v.field? "$ref").bind Json.string? with
    | some target => some (.ref target)
    | none => do
      let read := ofJson? depth
      let readNamed (parts : List (String × Json)) : Option (List (String × Schema)) :=
        parts.mapM fun (k, s) => do pure (k, ← read s)
      let pattern ← match (v.field? "pattern").bind Json.string? with
        | some text => do pure [.pattern (← Pattern.ofText? text)]
        | none => some []
      let items ← match v.field? "items" with
        | some (.array parts) => do
          let each ← parts.mapM read
          let after : List Keyword ← match v.field? "additionalItems" with
            | some (.bool false) => some [.noItemsAfter parts.length]
            | some (.object fields) => do pure [.itemsAfter parts.length (← read (.object fields))]
            | _ => some []
          pure (.tuple each :: after)
        | some s => do pure [.items (← read s)]
        | none => some []
      let named ← readNamed (namedPartsOf v "properties")
      let matched ← (namedPartsOf v "patternProperties").mapM fun (k, s) => do
        pure (← Pattern.ofText? k, ← read s)
      let isOpen := (v.field? "properties").isNone && (v.field? "patternProperties").isNone
      let others : List Keyword ← match v.field? "additionalProperties" with
        | some (.bool false) =>
          some [if isOpen then .noProperties else .closed (named.map (·.1)) (matched.map (·.1))]
        | some (.object fields) => do
          pure [.others (named.map (·.1)) (matched.map (·.1)) (← read (.object fields))]
        | _ => some []
      let dependencies ← (namedPartsOf v "dependencies").mapM fun (k, d) =>
        match d with
        | .array _ => some (.needs k (names d))
        | s => do pure (.implies k (← read s))
      let all ← (partsOf v "allOf").mapM read
      let any ← (partsOf v "anyOf").mapM read
      let exactlyOne ← (partsOf v "oneOf").mapM read
      let never : List Keyword ← match v.field? "not" with
        | some s => do pure [.never s (← read s)]
        | none => some []
      pure (.rules (plainKeywords v ++ pattern ++ items ++ [.properties named, .patterned matched] ++
        others ++ dependencies ++ [.all all] ++
        (if any.isEmpty then [] else [.any any]) ++
        (if exactlyOne.isEmpty then [] else [.exactlyOne exactlyOne]) ++ never))

mutual

def targets : Schema → List String
  | .ref target => [target]
  | .rules ks => keywordsTargets ks

def keywordsTargets : List Keyword → List String
  | [] => []
  | k :: ks => keywordTargets k ++ keywordsTargets ks

def keywordTargets : Keyword → List String
  | .items s => targets s
  | .tuple ss => listTargets ss
  | .itemsAfter _ s => targets s
  | .properties named => namedTargets named
  | .patterned matched => matchedTargets matched
  | .others _ _ s => targets s
  | .implies _ s => targets s
  | .all ss => listTargets ss
  | .any ss => listTargets ss
  | .exactlyOne ss => listTargets ss
  | .never _ s => targets s
  | _ => []

def listTargets : List Schema → List String
  | [] => []
  | s :: ss => targets s ++ listTargets ss

def namedTargets : List (String × Schema) → List String
  | [] => []
  | (_, s) :: ss => targets s ++ namedTargets ss

def matchedTargets : List (Pattern × Schema) → List String
  | [] => []
  | (_, s) :: ss => targets s ++ matchedTargets ss

end

def part? : List String → Json → Option Json
  | [], v => some v
  | name :: path, .object fields => (fields.lookup name).bind (part? path)
  | name :: path, .array vs =>
    let i := Text.decimalValue name.toList
    if name.toList = Text.decimal i then vs[i]?.bind (part? path) else none
  | _ :: _, _ => none

def fragmentBytes : List Char → List UInt8
  | [] => []
  | '%' :: a :: b :: rest =>
    match Json.hexValue? a, Json.hexValue? b with
    | some m, some n => UInt8.ofNat (16 * m + n) :: fragmentBytes rest
    | _, _ => 37 :: fragmentBytes (a :: b :: rest)
  | c :: rest => (String.singleton c).toUTF8.toList ++ fragmentBytes rest

def resolve? (root : Json) (target : String) : Option Json :=
  match target.toList with
  | '#' :: fragment => do
    let text ← String.fromUTF8? ⟨(fragmentBytes fragment).toArray⟩
    part? (← Pointer.path? text.toList) root
  | _ => none

/-- The schemas that the references in `pending`, and those in their targets, lead to. -/
def collect? (root : Json) :
    Nat → List (String × Schema) → List String → Option (List (String × Schema))
  | _, found, [] => some found
  | 0, _, _ => none
  | fuel + 1, found, target :: pending =>
    if (found.lookup target).isSome then collect? root fuel found pending
    else do
      let s ← ofJson? (Json.depthLimit + 2) (← resolve? root target)
      collect? root fuel ((target, s) :: found) (s.targets ++ pending)

end ThreatModel.Schema

namespace ThreatModel.Validator

def ofJson? (v : Json) : Option Validator :=
  if !(Schema.Meta.validator.problems v).isEmpty then none
  else do
    let schema ← Schema.ofJson? (Json.depthLimit + 2) v
    let size := v.compact.length
    let targets ← Schema.collect? v (size * size + 1) [] schema.targets
    pure { schema, targets }

def ofText (text : String) : Except Schema.ReadError Validator :=
  match Json.ofText? text with
  | none => .error .notJson
  | some v => (ofJson? v).elim (.error .invalid) .ok

end ThreatModel.Validator
