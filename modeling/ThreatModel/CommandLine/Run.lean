import ThreatModel.Catalogue.Format
import ThreatModel.Catalogue.Library
import ThreatModel.CommandLine.Arguments
import ThreatModel.Config.Lookup
import ThreatModel.Config.Template
import ThreatModel.Document.Summary
import ThreatModel.Document.Validation
import ThreatModel.Indexed.Format
import ThreatModel.Indexed.Integrity
import ThreatModel.Indexed.Numbering
import ThreatModel.OpenApi
import ThreatModel.Registry.Apply
import ThreatModel.Registry.Exchange
import ThreatModel.Scan
import ThreatModel.Schema.Format
import ThreatModel.Schema.Intermediate
import ThreatModel.Yaml.Format

namespace ThreatModel

inductive CommandError where
  | config (e : ConfigError)
  | scan (e : ScanError)
  | tag (e : TagError)
  | model (e : ModelError)
  | catalogue (e : CatalogueError)
  | file (e : FileError)
  | emptyProject
  | unreadable (path : String)
  | notJson (path : String)
  | noDocument (path : String)
  | noOpenApi (path : String)
  | noLibrary (path : String)
  | noSchema (path : String)
  | noModel (path : String)
  | noCatalogue (path : String)
  | noFolder (path : String)
  | unwritable (path : String)
  | problems (count : Nat)
  | danglingReferences (count : Nat)
  | projectNotChosen (available : List String)
  | configExists (path : String)
deriving DecidableEq

namespace CommandError

def counted (count : Nat) (things : String) : String :=
  .ofList (Text.decimal count) ++ " " ++ things ++ " found"

def message : CommandError → String
  | config e => e.message
  | scan e => e.message
  | tag e => e.message
  | model e => e.message
  | catalogue e => e.message
  | file e => e.message
  | emptyProject => "Project name must not be empty"
  | unreadable path => "Failed to read file: " ++ path
  | notJson path => "Failed to parse JSON: " ++ path
  | noDocument path => "Failed to parse threatspec document: " ++ path
  | noOpenApi path => "Failed to parse OpenAPI document: " ++ path
  | noLibrary path => "Failed to load threat library: " ++ path
  | noSchema path => "Failed to load schema: " ++ path
  | noModel path => "Failed to load threat model: " ++ path
  | noCatalogue path => "Failed to import CWE catalogue: " ++ path
  | noFolder path => "Failed to create directory: " ++ path
  | unwritable path => "Failed to write file: " ++ path
  | problems count => counted count "problems"
  | danglingReferences count => counted count "dangling references"
  | projectNotChosen available =>
    "Choose a project with --project (available: " ++ String.intercalate ", " available ++ ")"
  | configExists path => "Configuration already exists: " ++ path ++ "\nUse --force to overwrite."

end CommandError

namespace CommandLine

abbrev Result := Except CommandError (String × Workspace)

def lift {ε α : Type} (f : ε → CommandError) : Except ε α → Except CommandError α
  | .ok a => .ok a
  | .error e => .error (f e)

def orElse {α : Type} (e : CommandError) : Option α → Except CommandError α
  | some a => .ok a
  | none => .error e

def total (counts : List Nat) : Nat := counts.foldl (· + ·) 0

def linesText (lines : List String) : String := String.join (lines.map (· ++ "\n"))

def projectName (c : Config) (project : Option String) : Except CommandError String :=
  let name := project.getD c.settings.project
  if (Text.trim name.toList).isEmpty then .error .emptyProject else .ok name

def loadDocument (w : Workspace) (path : String) : Except CommandError Document := do
  let text ← orElse (.unreadable path) (w.text? path)
  orElse (.noDocument path) (Document.load? text)

def loadDocuments (w : Workspace) (paths : List String) : Except CommandError Document :=
  return .mergeAll (← paths.mapM (loadDocument w))

def saveDocument (w : Workspace) (path : String) (d : Document) :
    Except CommandError Workspace := do
  let folder := (Path.parent? path).getD ""
  let w ← lift (fun _ => .noFolder folder) (w.ensureFolder folder)
  lift (fun _ => .unwritable path) (w.write path d.save)

def outputPath (i : Invocation) (c : Config) (project : String) (out : Option String) : String :=
  out.getD (Path.join i.folder (c.outputPath project))

/-- Applies tags. In strict mode the first that fails stops the run, and otherwise those that fail
are left out. -/
def applyTags (r : Registry) (tags : List Tag) (strict : Bool) : Except CommandError Registry :=
  if strict then
    match r.applyAllStrict tags with
    | (r, none) => .ok r
    | (_, some e) => .error (.tag e)
  else .ok (r.applyAll tags).1

def parse (w : Workspace) (now : Int) (i : Invocation) (c : Config) (paths : List String)
    (project out : Option String) (libraries : List String) : Result := do
  let project ← projectName c project
  let libraries := c.settings.libraries.map (Path.join i.folder) ++ libraries
  let documents ← libraries.mapM fun path =>
    lift (fun _ => CommandError.noLibrary path) (loadDocument w path)
  let registry := documents.foldl Registry.importEntries { created := now, updated := now }
  let scan := Scan.ofSettings c.settings.excludes c.settings.markers
  let found ← (if paths.isEmpty then [i.folder] else paths).mapM fun path =>
    lift CommandError.scan (scan.tags w path)
  let registry ← applyTags registry found.flatten c.settings.strict
  let w ← saveDocument w (outputPath i c project out) (registry.toDocument project)
  let count (n : Nat) (things : String) : String := .ofList (Text.decimal n) ++ " " ++ things
  let counts := [count registry.boundaries.size "boundaries", count registry.threats.size "threats",
    count registry.elementCount "elements"]
  return ("Project '" ++ project ++ "': " ++ String.intercalate ", " counts ++ "\n", w)

def openApi (w : Workspace) (now : Int) (i : Invocation) (c : Config) (files : List String)
    (project out : Option String) : Result := do
  let project ← projectName c project
  let found ← files.mapM fun path => do
    let text ← orElse (.unreadable path) (w.text? path)
    let v ← orElse (.noOpenApi path) (Yaml.ofText? text)
    return OpenApi.tags path v
  let registry ← applyTags { created := now, updated := now } found.flatten c.settings.strict
  let w ← saveDocument w (outputPath i c project out) (registry.toDocument project)
  return ("", w)

def loadSchema (w : Workspace) : Option String → Except CommandError Validator
  | none => .ok .intermediate
  | some path => do
    let text ← orElse (.noSchema path) (w.text? path)
    lift (fun _ => .noSchema path) (Validator.ofText text)

def validate (w : Workspace) (c : Config) (files : List String) (schema : Option String)
    (relax : Nat) : Result := do
  let level := if 0 < relax then relax else c.validation.relax
  let validator ← loadSchema w (schema <|> c.validation.schema)
  let counts ← files.mapM fun path => do
    let text ← orElse (.unreadable path) (w.text? path)
    orElse (.notJson path) (Document.problemCount? validator.problems level text)
  let count := total counts
  if 0 < count then throw (.problems count)
  return ("", w)

def chooseProject (c : Config) (d : Document) : Option String → Except CommandError String
  | some project => .ok project
  | none =>
    match d.projects.keys with
    | [project] => .ok project
    | available =>
      if available.contains c.settings.project then .ok c.settings.project
      else .error (.projectNotChosen available)

def convert (w : Workspace) (c : Config) (files : List String) (project out : Option String) :
    Result := do
  let d ← loadDocuments w files
  let project ← chooseProject c d project
  let m ← lift CommandError.model (IndexedModel.ofDocument d project)
  let text := m.pretty ++ "\n"
  match out with
  | none => return (text, w)
  | some path => return ("", ← lift (fun _ => CommandError.unwritable path) (w.write path text))

def check (w : Workspace) (files : List String) : Result := do
  let counts ← files.mapM fun path => do
    let m ← orElse (.noModel path) ((w.text? path).bind IndexedModel.load?)
    return m.issues.length
  let count := total counts
  if 0 < count then throw (.danglingReferences count)
  return ("", w)

def report (w : Workspace) (files : List String) (tree json : Bool) : Result := do
  let d ← loadDocuments w files
  let lines := match tree, json with
    | true, true => [d.treeJson.pretty]
    | true, false => d.outlineLines
    | false, true => [d.coverageJson.pretty]
    | false, false => d.coverageTable
  return (linesText lines, w)

def libraryPath (faultPatterns : Bool) : String :=
  if faultPatterns then "sfp_library.threatspec.json" else "cwe_library.threatspec.json"

def importCatalogue (w : Workspace) (now : Int) (i : Invocation) (file : String)
    (faultPatterns : Bool) (out : Option String) : Result := do
  let text ← orElse (.noCatalogue file) (w.text? file)
  let c ← lift (fun _ => CommandError.noCatalogue file) (Catalogue.ofText text)
  let threats ←
    if faultPatterns then lift CommandError.catalogue c.faultPatternThreats else .ok c.threats
  let path := out.getD (Path.join i.folder (libraryPath faultPatterns))
  return ("", ← saveDocument w path (Catalogue.library now threats))

def init (w : Workspace) (i : Invocation) (force : Bool) : Result := do
  let path := i.config.getD (Config.usualPath i.folder)
  if w.hasPath path && !force then throw (.configExists path)
  let folder := (Path.parent? path).getD ""
  let w ← if w.hasPath folder then pure w else lift CommandError.file (w.ensureFolder folder)
  let w ← lift CommandError.file (w.write path Config.template)
  return ("Created: " ++ path ++ "\n", w)

def configOf (w : Workspace) (i : Invocation) : Except CommandError Config :=
  lift CommandError.config (i.config.elim (Config.ofFolder w i.folder) (Config.ofFile w))

/-- Runs what is asked for, at the given time in milliseconds. All commands but `init` need settings
that can be read, used or not. -/
def perform (w : Workspace) (now : Int) (i : Invocation) : Result :=
  match i.command with
  | .init force => init w i force
  | .parse paths project out libraries => do
    parse w now i (← configOf w i) paths project out libraries
  | .openApi files project out => do openApi w now i (← configOf w i) files project out
  | .validate files schema relax => do validate w (← configOf w i) files schema relax
  | .convert files project out => do convert w (← configOf w i) files project out
  | .check files => do
    let _ ← configOf w i
    check w files
  | .report files tree json => do
    let _ ← configOf w i
    report w files tree json
  | .importCatalogue file faultPatterns out => do
    let _ ← configOf w i
    importCatalogue w now i file faultPatterns out

structure Ending where
  exit : Nat
  output : String := ""
  error : Option String := none
  workspace : Workspace

def run (w : Workspace) (now : Int) (args : List String) : Ending :=
  match read args with
  | .error .shown => { exit := 0, workspace := w }
  | .error .misuse => { exit := 2, workspace := w }
  | .ok i =>
    match perform w now i with
    | .ok (output, w) => { exit := 0, output, workspace := w }
    | .error e => { exit := 1, error := some e.message, workspace := w }

end CommandLine

end ThreatModel
