import ThreatModel.Text.Blank
import ThreatModel.Text.Letter
import ThreatModel.Text.Lowercase

namespace ThreatModel.Identifier

open Text

def isIdentifier (text : String) : Bool := text.toList.head? = some '@'

def bare : String := "@"

def isSeparator (c : Char) : Bool := isBlank c || c = '/' || c = '_'

def nameWords (cs : List Char) : List (List Char) :=
  ((splitWhen isSeparator cs).map (·.filter isAlphanumeric)).filter (!·.isEmpty)

def ofName (cs : List Char) : List Char := '@' :: ['_'].intercalate (nameWords (lowercase cs))

/-- The words of a name joined while they are read: `id` is what there is of the identifier, and a
separator waits until another word begins. -/
def scan (id : List Char) (pending : Bool) : List Char → List Char
  | [] => id
  | c :: cs =>
    if isSeparator c then scan id true cs
    else if isAlphanumeric c then
      scan ((if pending && !id.isEmpty then id ++ ['_'] else id) ++ [c]) false cs
    else scan id pending cs

/-- An identifier and the empty text stand for themselves. -/
def ofText (text : String) : String :=
  if text.isEmpty || isIdentifier text then text else .ofList (ofName text.toList)

end ThreatModel.Identifier
