import ThreatModel.Text.Blank

namespace ThreatModel.Pointer

def escape : List Char → List Char
  | [] => []
  | '~' :: rest => '~' :: '0' :: escape rest
  | '/' :: rest => '~' :: '1' :: escape rest
  | c :: rest => c :: escape rest

def unescape : List Char → List Char
  | [] => []
  | '~' :: '0' :: rest => '~' :: unescape rest
  | '~' :: '1' :: rest => '/' :: unescape rest
  | c :: rest => c :: unescape rest

theorem unescape_escape (cs : List Char) : unescape (escape cs) = cs := by
  fun_induction escape cs with
  | case1 => rfl
  | case2 rest ih => simp [unescape, ih]
  | case3 rest ih => simp [unescape, ih]
  | case4 c rest h _ ih =>
    rw [unescape]
    · rw [ih]
    · exact fun r e _ => h e
    · exact fun r e _ => h e

def ofPath (path : List String) : String :=
  .ofList (path.flatMap fun name => '/' :: escape name.toList)

def path? (cs : List Char) : Option (List String) :=
  match cs with
  | [] => some []
  | '/' :: rest => some ((Text.splitWhen (· = '/') rest).map fun name => .ofList (unescape name))
  | _ => none

end ThreatModel.Pointer
