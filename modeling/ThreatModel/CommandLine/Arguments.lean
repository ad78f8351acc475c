import ThreatModel.CommandLine
import ThreatModel.Text.Blank

namespace ThreatModel.CommandLine

inductive Stop where
  | shown
  | misuse
deriving DecidableEq

inductive SwitchKind where
  | text
  | path
  | paths
  | flag
  | count
  | help
deriving DecidableEq

structure Switch where
  name : String
  letter : Option Char
  kind : SwitchKind

namespace Switch

def takesValue (s : Switch) : Bool := [.text, .path, .paths].contains s.kind

def refusesEmpty (s : Switch) : Bool := [.path, .paths].contains s.kind

def refusesRepetition (s : Switch) : Bool := [.text, .path, .flag].contains s.kind

end Switch

inductive Operands where
  /-- The name of a command, and what follows belongs to the command. -/
  | command
  | paths (least : Nat) (most : Option Nat)

structure Interface where
  switches : List Switch
  operands : Operands

structure Given where
  switches : List (String × String) := []
  operands : List String := []
  /-- A switch with a value that is not looked at yet. -/
  pending : Option (Switch × String) := none

namespace Given

def texts (g : Given) (name : String) : List String :=
  (g.switches.filter (·.1 = name)).map (·.2)

def text? (g : Given) (name : String) : Option String := (g.texts name).head?

def has (g : Given) (name : String) : Bool := (g.text? name).isSome

def count (g : Given) (name : String) : Nat := (g.texts name).length

def record (g : Given) (s : Switch) (value : String) : Except Stop Given :=
  if s.refusesEmpty && value.isEmpty then .error .misuse
  else if s.refusesRepetition && g.has s.name then .error .misuse
  else .ok { g with switches := g.switches ++ [(s.name, value)] }

def settle (g : Given) : Except Stop Given :=
  match g.pending with
  | none => .ok g
  | some (s, value) => { g with pending := none }.record s value

def assign (g : Given) (s : Switch) (value : String) : Except Stop Given := do
  (← g.settle).record s value

def press (g : Given) (s : Switch) : Except Stop Given := do
  let g ← g.settle
  if s.kind = .help then throw .shown else g.record s ""

def operate (g : Given) (most : Option Nat) (operands : List String) : Except Stop Given :=
  let operands := g.operands ++ operands
  if operands.contains "" || most.any (· < operands.length) then .error .misuse
  else .ok { g with operands }

end Given

/-- Takes the letters after a dash. A switch that is left over takes the next argument. -/
def readLetters (switches : List Switch) (g : Given) :
    List Char → Except Stop (Given × Option Switch)
  | [] => .ok (g, none)
  | c :: cs => do
    let some s := switches.find? (·.letter = some c) | throw .misuse
    if s.takesValue then
      match cs with
      | [] => return (← g.settle, some s)
      | '=' :: value => return (← g.assign s (.ofList value), none)
      | value => return (← g.assign s (.ofList value), none)
    else readLetters switches (← g.press s) cs

def readLong (switches : List Switch) (g : Given) (cs : List Char) :
    Except Stop (Given × Option Switch) := do
  let name := String.ofList (cs.takeWhile (· ≠ '='))
  let value? := Text.dropHead? ['='] (cs.dropWhile (· ≠ '='))
  let some s := switches.find? (·.name = name) | throw .misuse
  match s.takesValue, value? with
  | true, some value => return (← g.assign s (.ofList value), none)
  | true, none => return (← g.settle, some s)
  | false, some _ => throw .misuse
  | false, none => return (← g.press s, none)

def looksLikeSwitch (arg : String) : Bool :=
  match arg.toList with
  | '-' :: _ :: _ => true
  | _ => false

/-- Reads arguments, up to the name of a command where one is wanted; gives what is left. -/
def readArguments (i : Interface) (g : Given) : List String → Except Stop (Given × List String)
  | [] => .ok (g, [])
  | arg :: rest => do
    if arg = "--" then
      match i.operands with
      | .command => throw .misuse
      | .paths _ most => return (← g.operate most rest, [])
    else if looksLikeSwitch arg then
      let (g, open?) ← match arg.toList with
        | '-' :: '-' :: cs => readLong i.switches g cs
        | cs => readLetters i.switches g (cs.drop 1)
      match open? with
      | none => readArguments i g rest
      | some s =>
        match rest with
        | [] => throw .misuse
        | value :: rest =>
          if looksLikeSwitch value then throw .misuse
          else readArguments i { g with pending := some (s, value) } rest
    else
      match i.operands with
      | .command => return (g, arg :: rest)
      | .paths _ most => readArguments i (← g.operate most [arg]) rest

def commonSwitches : List Switch :=
  [⟨"path", some 'C', .path⟩, ⟨"config", some 'c', .path⟩, ⟨"verbose", some 'v', .flag⟩,
   ⟨"help", some 'h', .help⟩]

def mainInterface : Interface := ⟨commonSwitches ++ [⟨"version", some 'V', .help⟩], .command⟩

structure CommandForm where
  name : String
  interface : Interface
  command : Given → Command

def projectSwitch : Switch := ⟨"project", some 'p', .text⟩

def outSwitch : Switch := ⟨"out", some 'o', .path⟩

/-- Relaxing further changes nothing. -/
def relaxLimit : Nat := 255

def commandForms : List CommandForm :=
  let form (name : String) (least : Nat) (most : Option Nat) (switches : List Switch)
      (command : Given → Command) : CommandForm :=
    ⟨name, ⟨commonSwitches ++ switches, .paths least most⟩, command⟩
  [form "parse" 0 none [projectSwitch, outSwitch, ⟨"library", some 'l', .paths⟩] fun g =>
      .parse g.operands (g.text? "project") (g.text? "out") (g.texts "library"),
   form "openapi" 1 none [projectSwitch, outSwitch] fun g =>
      .openApi g.operands (g.text? "project") (g.text? "out"),
   form "validate" 1 none [⟨"schema", some 'j', .path⟩, ⟨"relax", some 'r', .count⟩] fun g =>
      .validate g.operands (g.text? "schema") (min (g.count "relax") relaxLimit),
   form "convert" 1 none [projectSwitch, outSwitch] fun g =>
      .convert g.operands (g.text? "project") (g.text? "out"),
   form "check" 1 none [] fun g => .check g.operands,
   form "report" 1 none [⟨"tree", none, .flag⟩, ⟨"json", none, .flag⟩] fun g =>
      .report g.operands (g.has "tree") (g.has "json"),
   form "import-cwe" 1 (some 1) [⟨"sfp", none, .flag⟩, outSwitch] fun g =>
      .importCatalogue (g.operands.headD "") (g.has "sfp") (g.text? "out"),
   form "init" 0 (some 0) [⟨"force", none, .flag⟩] fun g => .init (g.has "force")]

def helpName : String := "help"

def hasHelp : List String → Bool
  | [] => true
  | [name] => name = helpName || commandForms.any (·.name = name)
  | _ => false

/-- Reads what is asked for. What a command is given wins over what stands before it. -/
def read (args : List String) : Except Stop Invocation := do
  let (before, rest) ← readArguments mainInterface {} args
  let name :: rest := rest | throw .misuse
  if name = helpName then throw (if hasHelp rest then .shown else .misuse)
  let some form := commandForms.find? (·.name = name) | throw .misuse
  let (given, _) ← readArguments form.interface {} rest
  let given ← given.settle
  match form.interface.operands with
  | .paths least _ => if given.operands.length < least then throw .misuse
  | .command => pure ()
  let before ← before.settle
  return {
    folder := (given.text? "path" <|> before.text? "path").getD "."
    config := given.text? "config" <|> before.text? "config"
    command := form.command given }

end ThreatModel.CommandLine
