import ThreatModel.Pointer
import ThreatModel.Proofs.Text.Words

namespace ThreatModel.Pointer

open Text

theorem ne_slash_of_mem_escape (cs : List Char) : ∀ c ∈ escape cs, c ≠ '/' := by
  fun_induction escape cs with
  | case1 => exact fun c inside => absurd inside List.not_mem_nil
  | case2 rest ih | case3 rest ih =>
    intro c inside
    rcases List.mem_cons.1 inside with rfl | inside
    · decide
    · rcases List.mem_cons.1 inside with rfl | inside
      · decide
      · exact ih c inside
  | case4 d rest _ other ih =>
    intro c inside
    rcases List.mem_cons.1 inside with rfl | inside
    · exact other
    · exact ih c inside

theorem splitWhen_escaped (name : String) (path : List String) :
    splitWhen (· = '/')
      (escape name.toList ++ path.flatMap fun name => '/' :: escape name.toList) =
      (name :: path).map fun name => escape name.toList := by
  have clean (name : String) : ∀ c ∈ escape name.toList, decide (c = '/') = false :=
    fun c inside => decide_eq_false (ne_slash_of_mem_escape _ c inside)
  induction path generalizing name with
  | nil => rw [List.flatMap_nil, List.append_nil, splitWhen_of_none (clean name)]; rfl
  | cons next path ih =>
    rw [List.flatMap_cons, List.cons_append, splitWhen_append (clean name) (by decide), ih next]
    rfl

theorem path?_ofPath (path : List String) : path? (ofPath path).toList = some path := by
  cases path with
  | nil => rfl
  | cons name path =>
    have names : ((name :: path).map fun name => escape name.toList).map
        (fun name => String.ofList (unescape name)) = name :: path := by
      rw [List.map_map]
      refine (List.map_congr_left fun name _ => ?_).trans (List.map_id _)
      rw [Function.comp_apply, unescape_escape, String.ofList_toList, id]
    rw [ofPath, String.toList_ofList, List.flatMap_cons, List.cons_append, path?,
      splitWhen_escaped, names]

end ThreatModel.Pointer
