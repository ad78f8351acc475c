import ThreatModel.Json.Written
import ThreatModel.Text.Blank

namespace ThreatModel.Yaml

inductive Token where
  | version (major minor : Nat)
  | tagDirective (handle expansion : List Char)
  | documentStart
  | documentEnd
  | blockSequenceStart
  | blockMappingStart
  | blockEnd
  | flowSequenceStart
  | flowSequenceEnd
  | flowMappingStart
  | flowMappingEnd
  | blockEntry
  | flowEntry
  | key
  | value
  | reference (anchor : List Char)
  | anchor (name : List Char)
  | tag (handle suffix : List Char)
  | scalar (plain : Bool) (text : List Char)
deriving DecidableEq, Inhabited

def isBreak (c : Char) : Bool :=
  c = '\n' || c = '\r' || c = '\u0085' || c = '\u2028' || c = '\u2029'

def isSpaceOrTab (c : Char) : Bool := c = ' ' || c = '\t'

def isGap (c : Char) : Bool := isSpaceOrTab c || isBreak c

def endsWord (cs : List Char) : Bool := cs.head?.all isGap

def endsLine (cs : List Char) : Bool := cs.head?.all isBreak

def isFlowBracket (c : Char) : Bool := c = ',' || c = '[' || c = ']' || c = '\x7b' || c = '\x7d'

def isAnchorChar (c : Char) : Bool :=
  ('0' ≤ c && c ≤ '9') || ('a' ≤ c && c ≤ 'z') || ('A' ≤ c && c ≤ 'Z') || c = '_' || c = '-'

def isTagChar (c : Char) : Bool := isAnchorChar c || [';', '/', '?', ':', '@', '&', '=', '+', '$',
  '.', '%', '!', '~', '*', '\'', '(', ')'].contains c

def isIndicator (c : Char) : Bool :=
  isFlowBracket c || ['-', '?', ':', '#', '&', '*', '!', '|', '>', '\'', '"', '%', '@', '\x60'].contains c

def isChar (c : Char) : Bool :=
  let n := c.toNat
  n = 0x9 || n = 0xa || n = 0xd || (0x20 ≤ n && n ≤ 0x7e) || n = 0x85 || (0xa0 ≤ n && n ≤ 0xfffd) ||
    0x10000 ≤ n

def startsPlain (flow : Bool) : List Char → Bool
  | [] => false
  | c :: cs =>
    !(isGap c || isIndicator c) || (c = '-' && !cs.head?.any isSpaceOrTab) ||
      (!flow && (c = '?' || c = ':') && !endsWord cs)

def endsPlain (flow : Bool) : List Char → Bool
  | [] => true
  | c :: cs =>
    isGap c || (c = ':' && endsWord cs) || (flow && isFlowBracket c) ||
      (flow && c = ':' && cs.head?.any fun d => isFlowBracket d || d = '?')

def isDocumentMark (cs : List Char) : Bool :=
  (cs.take 3 = ['-', '-', '-'] || cs.take 3 = ['.', '.', '.']) && endsWord (cs.drop 3)

end ThreatModel.Yaml
