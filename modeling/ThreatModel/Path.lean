import ThreatModel.Text.Blank

namespace ThreatModel.Path

open Text

/-- What stands between the slashes. An absolute path starts with an empty piece. -/
def pieces (path : String) : List (List Char) := splitWhen (· = '/') path.toList

def isAbsolute (path : String) : Bool := path.toList.head? = some '/'

/-- The path of something inside `base`. An absolute path stays as it is. -/
def join (base inner : String) : String :=
  if isAbsolute inner || base.isEmpty then inner
  else if base.toList.getLast? = some '/' then base ++ inner
  else base ++ "/" ++ inner

def isIdle (piece : List Char) : Bool := piece.isEmpty || piece = ['.']

/-- Pieces, last one first, from the last that leads somewhere. The first piece of a path stays. -/
def dropIdle : List (List Char) → List (List Char)
  | [] => []
  | [p] => [p]
  | p :: q :: above => if isIdle p then dropIdle (q :: above) else p :: q :: above

def ofReversed : List (List Char) → String
  | [[]] => "/"
  | ps => .ofList (['/'].intercalate ps.reverse)

def parent? (path : String) : Option String :=
  match dropIdle (pieces path).reverse with
  | [] => none
  | [p] => if p.isEmpty then none else some ""
  | _ :: above => some (ofReversed (dropIdle above))

def ancestry : List (List Char) → List String
  | [] => []
  | p :: above =>
    if isIdle p && !above.isEmpty then ancestry above
    else ofReversed (p :: above) :: ancestry above

/-- What follows the last dot of a name. A dot at the start belongs to the name. -/
def extension? (name : String) : Option String :=
  match (splitWhen (· = '.') name.toList).reverse with
  | [] | [_] => none
  | [_, []] => none
  | last :: _ => some (.ofList last)

end ThreatModel.Path
