import ThreatModel.Text.Pattern

namespace ThreatModel.Tag

open Text

def isRef (cs : List Char) : Bool :=
  (1 < cs.length && cs.head? = some '#' && !cs.any isBlank) || hasPart [':', '/', '/'] cs

def isParenthesis (c : Char) : Bool := c = '(' || c = ')'

/-- The text before a last pair of parentheses that ends the text, and what the pair encloses. -/
def trailingGroup? (cs : List Char) : Option (List Char × List Char) :=
  match (trimRight cs).reverse with
  | ')' :: rest =>
    match rest.dropWhile (!isParenthesis ·) with
    | '(' :: before =>
      some (trimRight before.reverse, (rest.takeWhile (!isParenthesis ·)).reverse)
    | _ => none
  | _ => none

/-- The pattern `\s*\(([^()]*)\)\s*`, with what the parentheses enclose. -/
def closingGroup : Pattern (List Char) := do
  let _ ← Pattern.many isBlank
  Pattern.char '('
  let inner ← Pattern.many (!isParenthesis ·)
  Pattern.char ')'
  let _ ← Pattern.many isBlank
  pure inner

/-- The pattern `^(.*?)\s*\(([^()]*)\)\s*$`: as little as possible, and then the group. -/
def groupPattern : Pattern (List Char × List Char) := Pattern.fewest closingGroup

/-- A text without the references at its end, and the references. A group that holds anything else,
or that is the whole text, stays in the text. -/
def splitRefs (cs : List Char) : List Char × List (List Char) :=
  match trailingGroup? cs with
  | none => (cs, [])
  | some (body, inner) =>
    let refs := (splitWhen (· = ',') inner).map trim
    if !body.isEmpty && refs.all isRef then (body, refs) else (cs, [])

end ThreatModel.Tag
