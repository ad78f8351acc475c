namespace ThreatModel.Text

/-- Whether `c` is the lowercase letter `letter` in some case. The long s and the Kelvin sign are
case variants of `s` and `k`. -/
def isCaseOf (letter c : Char) : Bool :=
  c = letter || c.toLower = letter || (letter = 's' && c = '\u017f') ||
    (letter = 'k' && c = '\u212a')

def dropKeyword? : List Char → List Char → Option (List Char)
  | [], cs => some cs
  | _ :: _, [] => none
  | k :: ks, c :: cs => if isCaseOf k c then dropKeyword? ks cs else none

end ThreatModel.Text
