import Mathlib.Data.List.DropRight
import ThreatModel.Text.Blank

namespace ThreatModel.Text

def BeginsDark (cs : List Char) : Prop := ∀ c ∈ cs.head?, isBlank c = false

def EndsDark (cs : List Char) : Prop := ∀ c ∈ cs.getLast?, isBlank c = false

theorem beginsDark_cons {c : Char} {cs : List Char} (dark : isBlank c = false) :
    BeginsDark (c :: cs) := by
  intro d first
  rwa [← Option.some.inj first]

theorem BeginsDark.of_isPrefix {cs ds : List Char} (begins : BeginsDark ds) (h : cs <+: ds) :
    BeginsDark cs := by
  obtain ⟨rest, rfl⟩ := h
  cases cs with
  | nil => intro c none; cases none
  | cons c cs => exact beginsDark_cons (begins c rfl)

theorem EndsDark.append_left {cs : List Char} (ends : EndsDark cs) (some' : cs ≠ [])
    (before : List Char) : EndsDark (before ++ cs) := by
  intro c last
  rw [List.getLast?_append_of_ne_nil before some'] at last
  exact ends c last

theorem endsDark_concat {c : Char} (dark : isBlank c = false) (cs : List Char) :
    EndsDark (cs ++ [c]) := by
  intro d last
  rw [List.getLast?_concat] at last
  rwa [← Option.some.inj last]

theorem trimLeft_of_beginsDark {cs : List Char} (begins : BeginsDark cs) : trimLeft cs = cs := by
  cases cs with
  | nil => rfl
  | cons c cs => exact List.dropWhile_cons_of_neg (by simp [begins c rfl])

theorem beginsDark_trimLeft (cs : List Char) : BeginsDark (trimLeft cs) := by
  intro c first
  have dark := List.head?_dropWhile_not isBlank cs
  rw [show cs.dropWhile isBlank = trimLeft cs from rfl, Option.mem_def.1 first] at dark
  simpa using dark

theorem trimLeft_blank {c : Char} (blank : isBlank c = true) (cs : List Char) :
    trimLeft (c :: cs) = trimLeft cs := List.dropWhile_cons_of_pos blank

theorem trimLeft_suffix (cs : List Char) : trimLeft cs <:+ cs := List.dropWhile_suffix isBlank

theorem trimRight_isPrefix (cs : List Char) : trimRight cs <+: cs :=
  List.rdropWhile_prefix isBlank cs

theorem trimRight_of_endsDark {cs : List Char} (ends : EndsDark cs) : trimRight cs = cs := by
  refine List.rdropWhile_eq_self_iff.2 fun some' => ?_
  simpa using ends _ (List.getLast?_eq_some_getLast some')

theorem endsDark_trimRight (cs : List Char) : EndsDark (trimRight cs) := by
  intro c last
  obtain ⟨before, same⟩ := List.getLast?_eq_some_iff.1 last
  have some' : cs.rdropWhile isBlank ≠ [] := by
    show trimRight cs ≠ []
    simp [same]
  have dark := List.rdropWhile_last_not isBlank cs some'
  rw [List.getLast_congr some' (by simp) (show cs.rdropWhile isBlank = before ++ [c] from same),
    List.getLast_concat] at dark
  simpa using dark

theorem exists_trimRight_append (cs : List Char) :
    ∃ blanks, cs = trimRight cs ++ blanks ∧ ∀ c ∈ blanks, isBlank c = true :=
  ⟨cs.rtakeWhile isBlank, List.rdropWhile_append_rtakeWhile.symm,
    fun _ inside => List.mem_rtakeWhile_imp inside⟩

theorem trimRight_append_blanks {cs blanks : List Char} (ends : EndsDark cs)
    (blank : ∀ c ∈ blanks, isBlank c = true) : trimRight (cs ++ blanks) = cs := by
  have dropped : trimRight (cs ++ blanks) = trimRight cs := by
    rw [trimRight, List.reverse_append, List.dropWhile_append_of_pos (by simpa using blank)]
    rfl
  rw [dropped, trimRight_of_endsDark ends]

theorem trimRight_append_space {cs : List Char} (ends : EndsDark cs) :
    trimRight (cs ++ [' ']) = cs :=
  trimRight_append_blanks ends (List.forall_mem_singleton.2 (by decide))

theorem hasPart_iff {part cs : List Char} : hasPart part cs = true ↔ part <:+: cs := by
  induction cs with
  | nil => simp [hasPart]
  | cons c cs ih =>
    rw [hasPart, Bool.or_eq_true, ih, List.isPrefixOf_iff_prefix, List.infix_cons_iff]

theorem dropHead?_eq_some {head cs rest : List Char} :
    dropHead? head cs = some rest ↔ cs = head ++ rest := by
  unfold dropHead?
  constructor
  · intro found
    split at found
    · next begins =>
      obtain ⟨more, rfl⟩ := List.isPrefixOf_iff_prefix.1 begins
      rw [← Option.some.inj found, List.drop_left]
    · cases found
  · intro whole
    subst whole
    rw [if_pos (List.isPrefixOf_iff_prefix.2 (List.prefix_append head rest)), List.drop_left]

theorem dropHead?_eq_none {head cs : List Char} : dropHead? head cs = none ↔ ¬ head <+: cs := by
  rw [← List.isPrefixOf_iff_prefix, dropHead?]
  simp

theorem dropTail?_eq_some {tail cs rest : List Char} :
    dropTail? tail cs = some rest ↔ cs = rest ++ tail := by
  unfold dropTail?
  constructor
  · intro found
    split at found
    · next ends =>
      obtain ⟨more, rfl⟩ := List.isSuffixOf_iff_suffix.1 ends
      rw [← Option.some.inj found]
      simp
    · cases found
  · intro whole
    subst whole
    rw [if_pos (List.isSuffixOf_iff_suffix.2 (List.suffix_append rest tail))]
    simp

theorem dropTail?_eq_none {tail cs : List Char} : dropTail? tail cs = none ↔ ¬ tail <:+ cs := by
  rw [← List.isSuffixOf_iff_suffix, dropTail?]
  simp

theorem backslash_suffix_append_space (front cs : List Char) :
    ['\\'] <:+ front ++ ' ' :: cs ↔ ['\\'] <:+ cs := by
  have last (ds : List Char) : ['\\'] <:+ ds ↔ ds.getLast? = some '\\' := by
    rw [List.getLast?_eq_some_iff]
    exact exists_congr fun _ => eq_comm
  rw [last, last, List.getLast?_append, List.getLast?_cons]
  cases cs.getLast? <;> simp

end ThreatModel.Text
