import ThreatModel.Text.Blank
import ThreatModel.Text.Letter
import ThreatModel.Text.Keyword

namespace ThreatModel.Text

/-- All ways to read the start of a text, the preferred ones first, each with the text left after it. -/
def Pattern (α : Type) := List Char → List (α × List Char)

namespace Pattern

variable {α β : Type}

instance : Monad Pattern where
  pure a := fun cs => [(a, cs)]
  bind p f := fun cs => (p cs).flatMap fun (a, rest) => f a rest

/-- The preferred reading of the whole text. -/
def readAll? (p : Pattern α) (cs : List Char) : Option α :=
  (p cs).findSome? fun (a, rest) => if rest.isEmpty then some a else none

def keyword (word : String) : Pattern Unit := fun cs =>
  ((dropKeyword? word.toList cs).map ((), ·)).toList

def char (c : Char) : Pattern Unit
  | [] => []
  | d :: rest => if d = c then [((), rest)] else []

def orElse (p q : Pattern α) : Pattern α := fun cs => p cs ++ q cs

def oneOf (ps : List (Pattern α)) : Pattern α := fun cs => ps.flatMap fun p => p cs

/-- A part that may be missing; it is taken where it can be. -/
def maybe (p : Pattern α) : Pattern (Option α) := orElse (some <$> p) (pure none)

def run (p : Char → Bool) : Pattern (List Char)
  | [] => []
  | c :: rest =>
    if p c then (run p rest).map (fun (w, left) => (c :: w, left)) ++ [([c], rest)] else []

def many (p : Char → Bool) : Pattern (List Char) := orElse (run p) (pure [])

def gap : Pattern Unit := do let _ ← run isBlank

/-- One or more characters of any kind, as few as possible, and then `p`. -/
def upTo (p : Pattern β) : Pattern (List Char × β)
  | [] => []
  | c :: rest =>
    (p rest).map (fun (b, left) => (([c], b), left)) ++
      (upTo p rest).map (fun ((w, b), left) => ((c :: w, b), left))

def fewest (p : Pattern β) : Pattern (List Char × β) :=
  orElse ((fun b => ([], b)) <$> p) (upTo p)

def remainder : Pattern (List Char)
  | [] => []
  | cs => [(cs, [])]

end Pattern

end ThreatModel.Text
