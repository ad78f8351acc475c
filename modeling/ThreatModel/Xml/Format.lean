import ThreatModel.Json.Written
import ThreatModel.Text.Range
import ThreatModel.Text.Reader
import ThreatModel.Xml

namespace ThreatModel.Xml

open Text Text.Reader

def isSpace (c : Char) : Bool := c = ' ' || c = '\t' || c = '\n' || c = '\r'

def isChar (c : Char) : Bool :=
  if c.toNat < 0x20 then c = '\t' || c = '\n' || c = '\r' else c != '\ufffe' && c != '\uffff'

def nameStartRanges : List (Nat × Nat) :=
  [(0x3a, 0x3a), (0x41, 0x5a), (0x5f, 0x5f), (0x61, 0x7a), (0xc0, 0xd6), (0xd8, 0xf6), (0xf8, 0x2ff),
   (0x370, 0x37d), (0x37f, 0x1fff), (0x200c, 0x200d), (0x2070, 0x218f), (0x2c00, 0x2fef),
   (0x3001, 0xd7ff), (0xf900, 0xfdcf), (0xfdf0, 0xfffd), (0x10000, 0xeffff)]

def nameOnlyRanges : List (Nat × Nat) :=
  [(0x2d, 0x2e), (0x30, 0x39), (0xb7, 0xb7), (0x300, 0x36f), (0x203f, 0x2040)]

def isNameStart (c : Char) : Bool := inRanges nameStartRanges c.toNat

def isNameChar (c : Char) : Bool := isNameStart c || inRanges nameOnlyRanges c.toNat

def skipSpace : Reader Unit := skipWhile isSpace

def guardChars (cs : List Char) : Reader Unit := guardThat (cs.all isChar)

def nameText : Reader (List Char) := do
  let cs ← takeWhile isNameChar
  guardThat (cs.head?.any isNameStart)
  pure cs

structure Name where
  head : String
  part : String
deriving DecidableEq, Inhabited

def name : Reader Name := do
  let cs ← takeWhile isNameChar
  match splitWhen (· = ':') cs with
  | [l] =>
    guardThat (l.head?.any isNameStart)
    pure ⟨"", .ofList l⟩
  | [p, l] =>
    guardThat (p.isEmpty || p.head?.any isNameStart)
    guardThat (l.head?.any isNameStart)
    pure ⟨.ofList p, .ofList l⟩
  | _ => failure

def quotedValue : Reader (List Char) := do
  let quote ← next
  guardThat (quote = '\'' || quote = '"')
  let cs ← takeWhile fun c => c != quote && c != '<'
  guardChars cs
  expect (.singleton quote)
  pure cs

def writtenAttribute : Reader (Name × List Char) := do
  let n ← name
  skipSpace
  expect "="
  skipSpace
  pure (n, ← quotedValue)

def declarationSpace : Reader Unit := do
  match ← next? with
  | none => pure ()
  | some c => if isSpace c then skipSpace else guardThat (← sees "?>")

def declaration : Reader Unit := do
  declarationSpace
  guardThat (← sees "version")
  let _ ← writtenAttribute
  declarationSpace
  if ← sees "encoding" then
    let _ ← writtenAttribute
    declarationSpace
  if ← sees "standalone" then
    let _ ← writtenAttribute
  skipSpace
  expect "?>"

def comment : Reader Unit := do
  let cs ← upTo "-->"
  guardChars cs
  guardThat (!hasPart ['-', '-'] cs && cs.getLast? != some '-')

def instruction : Reader Unit := do
  let _ ← nameText
  skipSpace
  guardChars (← upTo "?>")

def asides : Nat → Reader Unit
  | 0 => pure ()
  | fuel + 1 => do
    skipSpace
    if ← accept "<!--" then
      comment
      asides fuel
    else if !(← sees "<?xml ") && (← accept "<?") then
      instruction
      asides fuel

def namedEntity? (name : List Char) : Option Char :=
  match String.ofList name with
  | "quot" => some '"'
  | "amp" => some '&'
  | "apos" => some '\''
  | "lt" => some '<'
  | "gt" => some '>'
  | _ => none

/-- The character with this code; a code of no character counts as the replacement character. -/
def charOfCode? (n : Nat) : Option Char :=
  if bitValues 32 ≤ n then none
  else
    let c := if n.isValidChar then Char.ofNat n else '\ufffd'
    if isChar c then some c else none

def reference : Reader Char := do
  let c? ← if ← accept "#x" then do
      let ds ← takeWhile fun c => (Json.hexValue? c).isSome
      guardThat (!ds.isEmpty)
      pure (charOfCode? (ds.foldl (fun n d => 16 * n + (Json.hexValue? d).getD 0) 0))
    else if ← accept "#" then do
      let ds ← takeWhile isDigit
      guardThat (!ds.isEmpty)
      pure (charOfCode? (decimalValue ds))
    else do pure (namedEntity? (← nameText))
  expect ";"
  c?

/-- Characters with the references in them replaced. `plain` says what a character that is written
as itself, before another one, stands for. -/
def expand? (plain : Char → Option Char → List Char) : Nat → List Char → Option (List Char)
  | 0, _ => none
  | _, [] => some []
  | fuel + 1, '&' :: cs => do
    let (c, rest) ← reference.run cs
    (expand? plain fuel rest).map (c :: ·)
  | fuel + 1, c :: cs => (expand? plain fuel cs).map (plain c cs.head? ++ ·)

def textChar (c : Char) (following : Option Char) : List Char :=
  if c != '\r' then [c] else if following = some '\n' then [] else ['\n']

def valueChar (c : Char) (following : Option Char) : List Char :=
  if c = '\r' && following = some '\n' then [] else if isSpace c then [' '] else [c]

def lineFeeds : List Char → List Char
  | [] => []
  | c :: cs => textChar c cs.head? ++ lineFeeds cs

def expandText (cs : List Char) : Reader (List Char) := expand? textChar (cs.length + 1) cs

def expandValue (cs : List Char) : Reader String := do
  pure (.ofList (← expand? valueChar (cs.length + 1) cs))

abbrev Scope := List (String × String)

def bindings : List (Name × String) → Reader Scope
  | [] => pure []
  | (n, value) :: rest => do
    if n.head = "xmlns" then
      let more ← bindings rest
      guardThat ((more.lookup n.part).isNone)
      pure ((n.part, value) :: more)
    else bindings rest

def isDeclaration (n : Name) : Bool := n.head = "xmlns" || (n.head = "" && n.part = "xmlns")

def resolve (scope : Scope) : List (Name × String) → Reader (List Attribute)
  | [] => pure []
  | (n, value) :: rest => do
    let more ← resolve scope rest
    if isDeclaration n then pure more
    else
      let space ← if n.head = "" then pure none
        else do
          let space ← scope.lookup n.head
          pure (some space)
      guardThat (!more.any fun a => a.space = space && a.name = n.part)
      pure (⟨space, n.part, value⟩ :: more)

def attributes : Nat → Reader (List (Name × String) × Bool)
  | 0 => failure
  | fuel + 1 => do
    let spaced := (← next?).any isSpace
    skipSpace
    if ← accept "/>" then pure ([], false)
    else if ← accept ">" then pure ([], true)
    else
      guardThat spaced
      let (n, written) ← writtenAttribute
      let value ← expandValue written
      let (more, filled) ← attributes fuel
      pure ((n, value) :: more, filled)

def pending (before : List Char) : List Xml := if before.isEmpty then [] else [.text (.ofList before)]

mutual

def wholeElement (scope : Scope) : Nat → Reader Xml
  | 0 => failure
  | fuel + 1 => do
    let n ← name
    guardThat (n.head != "xmlns")
    let (given, filled) ← attributes fuel
    let scope := (← bindings given) ++ scope
    let attributes ← resolve scope given
    guardThat (n.head = "" || (scope.lookup n.head).isSome)
    if filled then
      let (content, closing) ← contents scope fuel []
      guardThat (closing = n)
      pure (.element n.part attributes content)
    else pure (.element n.part attributes [])

def contents (scope : Scope) : Nat → List Char → Reader (List Xml × Name)
  | 0, _ => failure
  | fuel + 1, before => do
    if ← accept "<!--" then
      comment
      let (more, closing) ← contents scope fuel []
      pure (pending before ++ more, closing)
    else if ← accept "<![CDATA[" then
      let cs ← upTo "]]>"
      guardChars cs
      contents scope fuel (before ++ lineFeeds cs)
    else if ← accept "</" then
      let closing ← name
      skipSpace
      expect ">"
      pure (pending before, closing)
    else if !(← sees "<?xml ") && (← accept "<?") then
      instruction
      let (more, closing) ← contents scope fuel []
      pure (pending before ++ more, closing)
    else if ← accept "<" then
      let child ← wholeElement scope fuel
      let (more, closing) ← contents scope fuel []
      pure (pending before ++ child :: more, closing)
    else
      let cs ← takeWhile (· != '<')
      guardThat (!cs.isEmpty)
      guardChars cs
      guardThat (!hasPart [']', ']', '>'] cs)
      contents scope fuel (before ++ (← expandText cs))

end

/-- The root element of a document, with nothing but comments and instructions around it. The prefix
`xml` is always bound. -/
def document (fuel : Nat) : Reader Xml := do
  let _ ← accept "\ufeff"
  if ← sees "<?xml " then
    expect "<?xml"
    declaration
  asides fuel
  expect "<"
  let root ← wholeElement [("xml", "xml")] fuel
  asides fuel
  pure root

def ofText? (text : String) : Option Xml :=
  let cs := text.toList
  readAll? (document (cs.length + 1)) cs

end ThreatModel.Xml
