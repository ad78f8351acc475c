namespace ThreatModel.Text

def alignLeft (width : Nat) (cs : List Char) : List Char :=
  cs ++ List.replicate (width - cs.length) ' '

def alignRight (width : Nat) (cs : List Char) : List Char :=
  List.replicate (width - cs.length) ' ' ++ cs

def shorten (limit : Nat) (cs : List Char) : List Char :=
  if cs.length ≤ limit then cs else cs.take (limit - 3) ++ ['.', '.', '.']

end ThreatModel.Text
