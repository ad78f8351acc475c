namespace ThreatModel

def bitValues (bits : Nat) : Nat := Nat.pow 2 bits

def isSigned64 (i : Int) : Bool := -(bitValues 63 : Int) ≤ i && i < (bitValues 63 : Int)

def isUnsigned64 (i : Int) : Bool := 0 ≤ i && i < (bitValues 64 : Int)

end ThreatModel
