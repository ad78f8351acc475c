import ThreatModel.Scan.IgnoreFile
import ThreatModel.Workspace

namespace ThreatModel

namespace IgnoreFile

def isSpace (c : Char) : Bool := [' ', '\t', '\n', '\x0b', '\x0c', '\r'].contains c

def endsLine : List Char → Bool
  | [] => true
  | c :: cs => c = '\n' || (isSpace c && endsLine cs)

def endsValue (cs : List Char) : Bool :=
  endsLine cs ||
    match cs.dropWhile isSpace with
    | '"' :: rest => endsLine rest
    | _ => false

def value? : List Char → Option (List Char)
  | [] => none
  | c :: cs =>
    if isSpace c then none
    else if endsValue cs then some [c]
    else (value? cs).map (c :: ·)

def settingAt? (cs : List Char) : Option (List Char) := do
  let name := "excludesfile".toList
  let cs := cs.dropWhile isSpace
  if (cs.take name.length).map Char.toLower ≠ name then none
  else
    let cs ← Text.dropHead? ['='] ((cs.drop name.length).dropWhile isSpace)
    let cs := cs.dropWhile isSpace
    let quoted := (Text.dropHead? ['"'] cs).bind fun rest => value? (rest.dropWhile isSpace)
    quoted <|> value? cs

def setting? (fresh : Bool) : List Char → Option (List Char)
  | [] => none
  | c :: cs => (if fresh then settingAt? (c :: cs) else none) <|> setting? (c = '\n') cs

/-- The path that the settings of git give. A tilde stands for the user's home. -/
def settingIn? (w : Workspace) (path : String) : Option String :=
  match w.get? path with
  | some (.file content) =>
    (setting? true (['\n'].intercalate (linesOf content))).map fun value =>
      .ofList (value.flatMap fun c => if c = '~' then w.home.toList else [c])
  | _ => none

def userPath (w : Workspace) : String :=
  let inHome (path : String) := Path.join w.home path
  (settingIn? w (inHome ".gitconfig") <|> settingIn? w (inHome ".config/git/config")).getD
    (inHome ".config/git/ignore")

def ofUser (w : Workspace) : IgnoreFile := ofTree (w.get? (userPath w))

end IgnoreFile

end ThreatModel
