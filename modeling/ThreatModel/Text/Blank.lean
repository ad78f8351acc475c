import ThreatModel.Text.Range

namespace ThreatModel.Text

def blankRanges : List (Nat × Nat) :=
  [(0x9, 0xd), (0x20, 0x20), (0x85, 0x85), (0xa0, 0xa0), (0x1680, 0x1680), (0x2000, 0x200a),
   (0x2028, 0x2029), (0x202f, 0x202f), (0x205f, 0x205f), (0x3000, 0x3000)]

def isBlank (c : Char) : Bool := inRanges blankRanges c.toNat

def trimLeft (cs : List Char) : List Char := cs.dropWhile isBlank

def trimRight (cs : List Char) : List Char := (cs.reverse.dropWhile isBlank).reverse

def trim (cs : List Char) : List Char := trimRight (trimLeft cs)

/-- The pieces between the items that satisfy `p`; one more piece than such items. -/
def splitWhen {α : Type} (p : α → Bool) : List α → List (List α)
  | [] => [[]]
  | c :: rest =>
    if p c then [] :: splitWhen p rest
    else match splitWhen p rest with
      | [] => [[c]]
      | piece :: pieces => (c :: piece) :: pieces

def words (cs : List Char) : List (List Char) := (splitWhen isBlank cs).filter (!·.isEmpty)

def unwords (ws : List (List Char)) : List Char := [' '].intercalate ws

/-- A backslash at the end of a line stands for a space. -/
def joinBrokenLines : List Char → List Char
  | [] => []
  | '\\' :: '\n' :: rest => ' ' :: joinBrokenLines rest
  | c :: rest => c :: joinBrokenLines rest

def respace (cs : List Char) : List Char := unwords (words (joinBrokenLines cs))

def dropReturn (line : List Char) : List Char :=
  match line.reverse with
  | '\r' :: rest => rest.reverse
  | _ => line

/-- The lines of a text, each ended by a line feed or a carriage return and a line feed. What
follows the last ending is a line only when it is not empty, and keeps its carriage return. -/
def lines (cs : List Char) : List (List Char) :=
  let pieces := splitWhen (· = '\n') cs
  pieces.dropLast.map dropReturn ++ pieces.getLast?.toList.filter (!·.isEmpty)

def dropHead? (head cs : List Char) : Option (List Char) :=
  if head.isPrefixOf cs then some (cs.drop head.length) else none

def dropTail? (tail cs : List Char) : Option (List Char) :=
  if tail.isSuffixOf cs then some (cs.take (cs.length - tail.length)) else none

def hasPart (part : List Char) : List Char → Bool
  | [] => part.isEmpty
  | c :: rest => part.isPrefixOf (c :: rest) || hasPart part rest

end ThreatModel.Text
