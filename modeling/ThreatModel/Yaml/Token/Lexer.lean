import ThreatModel.Yaml.Token

namespace ThreatModel.Yaml

structure PossibleKey where
  tokens : Nat
  index : Nat
  line : Nat
  column : Nat
  /-- Whether nothing but a key can stand there. -/
  required : Bool
deriving DecidableEq, Inhabited

structure Lexer where
  rest : List Char
  index : Nat := 0
  line : Nat := 0
  column : Nat := 0
  tokens : Array Token := #[]
  indent : Int := -1
  indents : List Int := []
  keyAllowed : Bool := true
  /-- The possible key of each open flow collection from the inside out, and of the block. -/
  keys : List (Option PossibleKey) := [none]
deriving Inhabited

abbrev Lex := StateT Lexer Option

namespace Lex

def guardThat (ok : Bool) : Lex Unit := if ok then pure () else failure

def rest : Lex (List Char) := do return (← get).rest

def peek? : Lex (Option Char) := do return (← get).rest.head?

def peekAt? (n : Nat) : Lex (Option Char) := do return (← get).rest[n]?

def column : Lex Nat := do return (← get).column

def inFlow : Lex Bool := do return 1 < (← get).keys.length

def skip (n : Nat) : Lex Unit := modify fun s =>
  { s with rest := s.rest.drop n, index := s.index + n, column := s.column + n }

def lineBreak : Lex (List Char) := do
  let advance (n : Nat) : Lex Unit := modify fun s =>
    { s with rest := s.rest.drop n, index := s.index + n, column := 0, line := s.line + 1 }
  match ← rest with
  | '\r' :: '\n' :: _ => advance 2; pure ['\n']
  | '\u2028' :: _ => advance 1; pure ['\u2028']
  | '\u2029' :: _ => advance 1; pure ['\u2029']
  | c :: _ => if isBreak c then do advance 1; pure ['\n'] else pure []
  | [] => pure []

def cut (stop : List Char → Bool) : List Char → List Char
  | [] => []
  | c :: cs => if stop (c :: cs) then [] else c :: cut stop cs

def takeUntil (stop : List Char → Bool) : Lex (List Char) := do
  let cs := cut stop (← rest)
  skip cs.length
  pure cs

def takeWhile (p : Char → Bool) : Lex (List Char) := takeUntil fun cs => !cs.head?.any p

def skipWhile (p : Char → Bool) : Lex Unit := do
  let _ ← takeWhile p

def skipComment : Lex Unit := do
  if (← peek?) = some '#' then skipWhile fun c => !isBreak c

def emit (t : Token) : Lex Unit := modify fun s => { s with tokens := s.tokens.push t }

def emitAt (place : Nat) (t : Token) : Lex Unit := modify fun s =>
  { s with tokens := s.tokens.take place ++ #[t] ++ s.tokens.drop place }

def allowKey (allowed : Bool) : Lex Unit := modify fun s => { s with keyAllowed := allowed }

def openBlock (column : Nat) (place : Nat) (t : Token) : Lex Unit := do
  let s ← get
  if !(← inFlow) && s.indent < column then
    set { s with indent := (column : Int), indents := s.indent :: s.indents }
    emitAt place t

def closeBlocks (column : Int) : Lex Unit := do
  if !(← inFlow) then
    modify fun s =>
      let closed := (s.indent :: s.indents).takeWhile fun i => column < i
      match s.indents.drop (closed.length - 1) with
      | outer :: others =>
        if closed.isEmpty then s
        else { s with
          indent := outer
          indents := others
          tokens := s.tokens ++ (closed.map fun _ => Token.blockEnd).toArray }
      | [] => s

def setKey (k : Option PossibleKey) : Lex Unit := modify fun s =>
  { s with keys := k :: s.keys.drop 1 }

/-- Forgets the possible key; one that is required must not be forgotten. -/
def dropKey : Lex Unit := do
  let s ← get
  guardThat (!((s.keys.head?.join).any (·.required)))
  setKey none

def noteKey : Lex Unit := do
  let s ← get
  if s.keyAllowed then
    let required := !(← inFlow) && s.indent = s.column
    dropKey
    setKey (some ⟨s.tokens.size, s.index, s.line, s.column, required⟩)

def keyLimit : Nat := 1024

/-- A key ends on its line, and within the limit. -/
def dropStaleKeys : Lex Unit := do
  let s ← get
  let isStale (k : PossibleKey) : Bool := k.line < s.line || k.index + keyLimit < s.index
  guardThat (!s.keys.any fun k => k.any fun k => isStale k && k.required)
  set { s with keys := s.keys.map (Option.filter (!isStale ·)) }

/-- Skips blanks, comments and line breaks. In block style a tab must not stand before a key. -/
def skipToToken : Nat → Lex Unit
  | 0 => pure ()
  | fuel + 1 => do
    if (← column) = 0 && (← peek?) = some '\ufeff' then skip 1
    let tabs := (← inFlow) || !(← get).keyAllowed
    skipWhile fun c => c = ' ' || (tabs && c = '\t')
    skipComment
    if (← peek?).any isBreak then
      let _ ← lineBreak
      if !(← inFlow) then allowKey true
      skipToToken fuel

structure Gap where
  blanks : List Char := []
  first : Option (List Char) := none
  later : List Char := []
deriving Inhabited

/-- One line break counts as a space; of several, the first does not count. -/
def Gap.text (g : Gap) : List Char :=
  match g.first with
  | none => g.blanks
  | some first =>
    if first = ['\n'] then (if g.later.isEmpty then [' '] else g.later) else first ++ g.later

def gap (least : Int) : Nat → Gap → Lex Gap
  | 0, g => pure g
  | fuel + 1, g => do
    match ← peek? with
    | none => pure g
    | some c =>
      if isSpaceOrTab c then
        guardThat (!(g.first.isSome && (← column) < least && c = '\t'))
        skip 1
        gap least fuel (if g.first.isNone then { g with blanks := g.blanks ++ [c] } else g)
      else if isBreak c then
        let text ← lineBreak
        gap least fuel
          (if g.first.isNone then { g with first := some text } else { g with later := g.later ++ text })
      else pure g

/-- A plain scalar after `text` and a gap, and whether a line break follows it. -/
def plain (flow : Bool) (least : Int) : Nat → List Char → Gap → Lex (List Char × Bool)
  | 0, text, g => pure (text, g.first.isSome)
  | fuel + 1, text, g => do
    if ((← column) = 0 && isDocumentMark (← rest)) || (← peek?) = some '#' then
      pure (text, g.first.isSome)
    else
      let word ← takeUntil (endsPlain flow)
      guardThat (!(flow && (← peek?) = some ':' && !endsWord ((← rest).drop 1)))
      let (text, g) := if word.isEmpty then (text, g) else (text ++ g.text ++ word, {})
      if (← peek?).any isGap then
        let next ← gap least ((← rest).length + 1) {}
        if !flow && (← column) < least then pure (text, next.first.isSome)
        else plain flow least fuel text next
      else pure (text, g.first.isSome)

def escape? : Char → Option Char
  | '0' => some '\x00'
  | 'a' => some '\x07'
  | 'b' => some '\x08'
  | 't' => some '\t'
  | '\t' => some '\t'
  | 'n' => some '\n'
  | 'v' => some '\x0b'
  | 'f' => some '\x0c'
  | 'r' => some '\r'
  | 'e' => some '\x1b'
  | ' ' => some ' '
  | '"' => some '"'
  | '/' => some '/'
  | '\\' => some '\\'
  | 'N' => some '\u0085'
  | '_' => some '\u00a0'
  | 'L' => some '\u2028'
  | 'P' => some '\u2029'
  | _ => none

def codeLength? : Char → Option Nat
  | 'x' => some 2
  | 'u' => some 4
  | 'U' => some 8
  | _ => none

def hexNumber? (ds : List Char) : Option Nat :=
  ds.foldlM (fun n d => (Json.hexValue? d).map (16 * n + ·)) 0

def escaped : Lex Char := do
  let some letter ← peekAt? 1 | failure
  skip 2
  match codeLength? letter with
  | none => escape? letter
  | some n =>
    let digits := (← rest).take n
    guardThat (digits.length = n)
    let some code := hexNumber? digits | failure
    guardThat code.isValidChar
    skip n
    pure (Char.ofNat code)

/-- The characters of a quoted scalar up to a gap or the closing quote, and whether the line break
after them is escaped. -/
def quotedWord (double : Bool) : Nat → List Char → Lex (List Char × Bool)
  | 0, text => pure (text, false)
  | fuel + 1, text => do
    let quote := if double then '"' else '\''
    match ← rest with
    | [] => pure (text, false)
    | c :: cs =>
      if isGap c then pure (text, false)
      else if !double && c = quote && cs.head? = some quote then
        skip 2
        quotedWord double fuel (text ++ [quote])
      else if c = quote then pure (text, false)
      else if double && c = '\\' && cs.head?.any isBreak then
        skip 1
        let _ ← lineBreak
        pure (text, true)
      else if double && c = '\\' then
        let e ← escaped
        quotedWord double fuel (text ++ [e])
      else
        skip 1
        quotedWord double fuel (text ++ [c])

def quoted (double : Bool) : Nat → List Char → Lex (List Char)
  | 0, _ => failure
  | fuel + 1, text => do
    guardThat !((← column) = 0 && isDocumentMark (← rest))
    guardThat !(← rest).isEmpty
    let (text, broken) ← quotedWord double ((← rest).length + 1) text
    if (← peek?) = some (if double then '"' else '\'') then
      skip 1
      pure text
    else
      let g ← gap 0 ((← rest).length + 1) { first := if broken then some [] else none }
      quoted double fuel (text ++ g.text)

/-- Indentation and empty lines of a block scalar, the line breaks of which are kept. An unknown
indentation is zero; the greatest column is kept for it. -/
def blockBreaks (indent : Nat) : Nat → Nat → List Char → Lex (Nat × List Char)
  | 0, deepest, breaks => pure (deepest, breaks)
  | fuel + 1, deepest, breaks => do
    let col ← column
    let spaces := ((← rest).takeWhile (· = ' ')).length
    skip (if indent = 0 then spaces else min spaces (indent - col))
    let col ← column
    let deepest := max deepest col
    guardThat !((indent = 0 || col < indent) && (← peek?) = some '\t')
    if (← peek?).any isBreak then
      let b ← lineBreak
      blockBreaks indent fuel deepest (breaks ++ b)
    else pure (deepest, breaks)

/-- The lines of a block scalar after `text`. `lineEnd` is the break of the line before, `breaks`
those of the empty lines after it, and `led` says whether that line began with a blank. -/
def blockLines (literal : Bool) (indent : Nat) :
    Nat → List Char → List Char → List Char → Bool → Lex (List Char × List Char × List Char)
  | 0, text, lineEnd, breaks, _ => pure (text, lineEnd, breaks)
  | fuel + 1, text, lineEnd, breaks, led => do
    if (← column) != indent || (← rest).isEmpty then pure (text, lineEnd, breaks)
    else
      let leads := (← peek?).any isSpaceOrTab
      let joint :=
        if !literal && lineEnd = ['\n'] && !led && !leads then (if breaks.isEmpty then [' '] else [])
        else lineEnd
      let line ← takeUntil endsLine
      let ending ← lineBreak
      let (_, later) ← blockBreaks indent ((← rest).length + 1) 0 []
      blockLines literal indent fuel (text ++ joint ++ breaks ++ line) ending later leads

inductive Chomping where
  | strip
  | clip
  | keep
deriving DecidableEq

def chomping? : Option Char → Option Chomping
  | some '+' => some .keep
  | some '-' => some .strip
  | _ => none

def indentHint : Lex (Option Nat) := do
  match ← peek? with
  | some c =>
    if Text.isDigit c then
      guardThat (c != '0')
      skip 1
      pure (some (Text.digitValue c))
    else pure none
  | none => pure none

def chompingHint : Lex (Option Chomping) := do
  let c? := chomping? (← peek?)
  if c?.isSome then skip 1
  pure c?

def blockHints : Lex (Chomping × Option Nat) := do
  match ← chompingHint with
  | some c => pure (c, ← indentHint)
  | none =>
    let hint? ← indentHint
    let c? ← if hint?.isSome then chompingHint else pure none
    pure (c?.getD .clip, hint?)

def block (literal : Bool) : Lex (List Char) := do
  let (chomping, hint?) ← blockHints
  skipWhile isSpaceOrTab
  skipComment
  guardThat (endsLine (← rest))
  let _ ← lineBreak
  let outer := (← get).indent
  let fuel := (← rest).length + 1
  let given := match hint? with
    | none => 0
    | some n => (max outer 0).toNat + n
  let (deepest, breaks) ← blockBreaks given fuel 0 []
  let indent := if given = 0 then max deepest (max (outer + 1) 1).toNat else given
  let (text, lineEnd, breaks) ← blockLines literal indent fuel [] [] breaks false
  pure <| text ++ match chomping with
    | .strip => []
    | .clip => lineEnd
    | .keep => lineEnd ++ breaks

def anchorName : Lex (List Char) := do
  let name ← takeWhile isAnchorChar
  guardThat (!name.isEmpty && (endsWord (← rest) || (← peek?).any fun c =>
    ['?', ':', ',', ']', '\x7d', '%', '@', '\x60'].contains c))
  pure name

def tagBytes (verbatim : Bool) : Nat → List UInt8 → Lex (List UInt8)
  | 0, bytes => pure bytes
  | fuel + 1, bytes => do
    match ← peek? with
    | none => pure bytes
    | some '%' =>
      let some n := hexNumber? ((← rest).drop 1 |>.take 2) | failure
      guardThat (2 < (← rest).length)
      skip 3
      tagBytes verbatim fuel (bytes ++ [UInt8.ofNat n])
    | some c =>
      if isTagChar c || (verbatim && (c = ',' || c = '[' || c = ']')) then
        skip 1
        tagBytes verbatim fuel (bytes ++ (String.singleton c).toUTF8.toList)
      else pure bytes

def tagText (verbatim : Bool) (before : List Char) : Lex (List Char) := do
  let bytes ← tagBytes verbatim ((← rest).length + 1) []
  guardThat !(before.isEmpty && bytes.isEmpty)
  let some text := String.fromUTF8? ⟨bytes.toArray⟩ | failure
  pure (before.drop 1 ++ text.toList)

def tagHandle : Lex (List Char) := do
  guardThat ((← peek?) = some '!')
  skip 1
  let name ← takeWhile isAnchorChar
  if (← peek?) = some '!' then
    skip 1
    pure ('!' :: name ++ ['!'])
  else pure ('!' :: name)

def tag : Lex Token := do
  let t ← if (← peekAt? 1) = some '<' then do
      skip 2
      let text ← tagText true []
      guardThat ((← peek?) = some '>')
      skip 1
      pure (.tag [] text)
    else do
      let handle ← tagHandle
      if 1 < handle.length && handle.getLast? = some '!' then
        pure (.tag handle (← tagText false []))
      else
        let text ← tagText false handle
        pure (if text.isEmpty then .tag [] ['!'] else .tag ['!'] text)
  guardThat (endsWord (← rest) || ((← inFlow) && (← peek?) = some ','))
  pure t

def versionPart : Lex Nat := do
  let ds ← takeWhile Text.isDigit
  guardThat (!ds.isEmpty && ds.length ≤ 9)
  pure (Text.decimalValue ds)

def directive : Lex Unit := do
  skip 1
  let name ← takeWhile isAnchorChar
  guardThat (endsWord (← rest))
  skipWhile isSpaceOrTab
  match String.ofList name with
  | "YAML" =>
    let major ← versionPart
    guardThat ((← peek?) = some '.')
    skip 1
    let minor ← versionPart
    emit (.version major minor)
  | "TAG" =>
    let handle ← tagHandle
    guardThat (handle = ['!'] || (1 < handle.length && handle.getLast? = some '!'))
    guardThat ((← peek?).any isSpaceOrTab)
    skipWhile isSpaceOrTab
    let text ← tagText true []
    guardThat (endsWord (← rest))
    emit (.tagDirective handle text)
  | _ => failure
  skipWhile isSpaceOrTab
  skipComment
  guardThat (endsLine (← rest))
  let _ ← lineBreak

def outside (read : Lex Unit) : Lex Unit := do
  closeBlocks (-1)
  dropKey
  allowKey false
  read

def flowStart (t : Token) : Lex Unit := do
  noteKey
  modify fun s => { s with keys := none :: s.keys, keyAllowed := true }
  skip 1
  emit t

def flowEnd (t : Token) : Lex Unit := do
  dropKey
  modify fun s =>
    { s with keys := if 1 < s.keys.length then s.keys.drop 1 else s.keys, keyAllowed := false }
  skip 1
  emit t

def flowEntry : Lex Unit := do
  dropKey
  allowKey true
  skip 1
  emit .flowEntry

def blockEntry : Lex Unit := do
  if !(← inFlow) then
    guardThat (← get).keyAllowed
    openBlock (← column) (← get).tokens.size .blockSequenceStart
  dropKey
  allowKey true
  skip 1
  emit .blockEntry

def key : Lex Unit := do
  if !(← inFlow) then
    guardThat (← get).keyAllowed
    openBlock (← column) (← get).tokens.size .blockMappingStart
  dropKey
  allowKey !(← inFlow)
  skip 1
  emit .key

def value : Lex Unit := do
  match (← get).keys.head?.join with
  | some k =>
    emitAt k.tokens .key
    openBlock k.column k.tokens .blockMappingStart
    setKey none
    allowKey false
  | none =>
    if !(← inFlow) then
      guardThat (← get).keyAllowed
      openBlock (← column) (← get).tokens.size .blockMappingStart
    allowKey !(← inFlow)
  skip 1
  emit .value

def nodePart (read : Lex Token) : Lex Unit := do
  noteKey
  allowKey false
  emit (← read)

def blockScalar (literal : Bool) : Lex Unit := do
  dropKey
  allowKey true
  skip 1
  emit (.scalar false (← block literal))

def quotedScalar (double : Bool) : Lex Unit :=
  nodePart do
    skip 1
    pure (.scalar false (← quoted double ((← rest).length + 1) []))

def plainScalar : Lex Unit := do
  noteKey
  allowKey false
  let least := (← get).indent + 1
  let (text, broken) ← plain (← inFlow) least ((← rest).length + 1) [] {}
  if broken then allowKey true
  emit (.scalar true text)

def token : Lex Unit := do
  let cs ← rest
  let flow ← inFlow
  let atStart := (← column) = 0
  let alone := endsWord (cs.drop 1)
  match cs.head? with
  | none => pure ()
  | some c =>
    if atStart && c = '%' then outside directive
    else if atStart && isDocumentMark cs then
      outside do
        skip 3
        emit (if c = '-' then .documentStart else .documentEnd)
    else if c = '[' then flowStart .flowSequenceStart
    else if c = '\x7b' then flowStart .flowMappingStart
    else if c = ']' then flowEnd .flowSequenceEnd
    else if c = '\x7d' then flowEnd .flowMappingEnd
    else if c = ',' then flowEntry
    else if c = '-' && alone then blockEntry
    else if c = '?' && (flow || alone) then key
    else if c = ':' && (flow || alone) then value
    else if c = '*' then nodePart do
      skip 1
      pure (.reference (← anchorName))
    else if c = '&' then nodePart do
      skip 1
      pure (.anchor (← anchorName))
    else if c = '!' then nodePart tag
    else if c = '|' && !flow then blockScalar true
    else if c = '>' && !flow then blockScalar false
    else if c = '\'' then quotedScalar false
    else if c = '"' then quotedScalar true
    else if startsPlain flow cs then plainScalar
    else failure

def tokens : Nat → Lex Unit
  | 0 => failure
  | fuel + 1 => do
    skipToToken ((← rest).length + 1)
    dropStaleKeys
    closeBlocks (← column)
    if (← rest).isEmpty then
      closeBlocks (-1)
      dropKey
    else
      token
      tokens fuel

end Lex

namespace Token

def ofText? (cs : List Char) : Option (List Token) := do
  if !cs.all isChar then none
  else
    let (_, s) ← (Lex.tokens (cs.length + 1)).run { rest := cs }
    pure s.tokens.toList

end Token

end ThreatModel.Yaml
