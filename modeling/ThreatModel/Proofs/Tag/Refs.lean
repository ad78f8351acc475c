import ThreatModel.Proofs.Text.Trim
import ThreatModel.Proofs.Text.Words
import ThreatModel.Tag.Refs

namespace ThreatModel.Tag

open Text

def IsRef (r : List Char) : Prop := (∃ w, r = '#' :: w ∧ IsWord w) ∨ "://".toList <:+: r

/-- The text is the body and then the inner part in parentheses, with white space before them or
after them or not. -/
def EndsInGroup (text body inner : List Char) : Prop :=
  EndsDark body ∧ (∀ c ∈ inner, c ≠ '(' ∧ c ≠ ')') ∧ ∃ gap after,
    (∀ c ∈ gap, isBlank c = true) ∧ (∀ c ∈ after, isBlank c = true) ∧
      text = body ++ gap ++ '(' :: inner ++ ')' :: after

/-- The text is the body and then the references, in parentheses and with commas between them. -/
def Cites (text body : List Char) (refs : List (List Char)) : Prop :=
  body ≠ [] ∧ (∀ r ∈ refs, IsRef r) ∧ ∃ inner,
    EndsInGroup text body inner ∧ refs = (splitWhen (· = ',') inner).map trim

theorem isRef_iff {r : List Char} : isRef r = true ↔ IsRef r := by
  have number : (1 < r.length && r.head? = some '#' && !r.any isBlank) = true ↔
      ∃ w, r = '#' :: w ∧ IsWord w := by
    cases r with
    | nil => simp
    | cons c w =>
      have dark : isBlank '#' = false := by decide
      by_cases sign : c = '#'
      · subst sign
        simp [IsWord, dark, List.length_pos_iff]
      · simp [sign]
  rw [isRef, Bool.or_eq_true, number, hasPart_iff]
  rfl

theorem isParenthesis_eq_false {c : Char} : isParenthesis c = false ↔ c ≠ '(' ∧ c ≠ ')' := by
  simp [isParenthesis]

theorem endsInGroup_of_trailingGroup? {cs body inner : List Char}
    (found : trailingGroup? cs = some (body, inner)) : EndsInGroup cs body inner := by
  unfold trailingGroup? at found
  split at found
  · next rest closed =>
    split at found
    · next before opened =>
      obtain ⟨rfl, rfl⟩ := Prod.mk.inj (Option.some.inj found)
      refine ⟨endsDark_trimRight _, ?_, ?_⟩
      · intro c inside
        have plain := List.mem_takeWhile_imp (List.mem_reverse.1 inside)
        exact isParenthesis_eq_false.1 (by simpa using plain)
      · obtain ⟨after, whole, blankAfter⟩ := exists_trimRight_append cs
        obtain ⟨gap, front, blankGap⟩ := exists_trimRight_append before.reverse
        refine ⟨gap, after, blankGap, blankAfter, ?_⟩
        have parts : rest = rest.takeWhile (!isParenthesis ·) ++ '(' :: before := by
          rw [← opened, List.takeWhile_append_dropWhile]
        calc cs = trimRight cs ++ after := whole
          _ = (')' :: rest).reverse ++ after := by rw [← closed, List.reverse_reverse]
          _ = (')' :: (rest.takeWhile (!isParenthesis ·) ++ '(' :: before)).reverse ++ after := by
            rw [← parts]
          _ = before.reverse ++ '(' :: (rest.takeWhile (!isParenthesis ·)).reverse ++
              ')' :: after := by simp
          _ = _ := by rw [← front]
    · cases found
  · cases found

theorem trailingGroup?_of_endsInGroup {cs body inner : List Char}
    (shape : EndsInGroup cs body inner) : trailingGroup? cs = some (body, inner) := by
  obtain ⟨ends, plain, gap, after, blankGap, blankAfter, rfl⟩ := shape
  have trimmed : trimRight (body ++ gap ++ '(' :: inner ++ ')' :: after) =
      body ++ gap ++ '(' :: inner ++ [')'] := by
    have closed : EndsDark (body ++ gap ++ '(' :: inner ++ [')']) := endsDark_concat (by decide) _
    have whole := trimRight_append_blanks closed blankAfter
    rwa [List.append_assoc _ [')'], List.singleton_append] at whole
  have backwards : (body ++ gap ++ '(' :: inner ++ [')']).reverse =
      ')' :: (inner.reverse ++ '(' :: (body ++ gap).reverse) := by simp
  have outside : ∀ c ∈ inner.reverse, (!isParenthesis c) = true := by
    intro c inside
    rw [isParenthesis_eq_false.2 (plain c (List.mem_reverse.1 inside))]
    rfl
  have rest : (inner.reverse ++ '(' :: (body ++ gap).reverse).dropWhile (!isParenthesis ·) =
      '(' :: (body ++ gap).reverse := by
    rw [List.dropWhile_append_of_pos outside]
    exact List.dropWhile_cons_of_neg (by decide)
  have group : (inner.reverse ++ '(' :: (body ++ gap).reverse).takeWhile (!isParenthesis ·) =
      inner.reverse := by
    rw [List.takeWhile_append_of_pos outside, List.takeWhile_cons_of_neg (by decide),
      List.append_nil]
  rw [trailingGroup?, trimmed, backwards]
  simp only [rest, group, List.reverse_reverse, trimRight_append_blanks ends blankGap]

theorem splitRefs_of_cites {text body : List Char} {refs : List (List Char)}
    (cites : Cites text body refs) : splitRefs text = (body, refs) := by
  obtain ⟨some', each, inner, shape, rfl⟩ := cites
  have proper : (!body.isEmpty && ((splitWhen (· = ',') inner).map trim).all isRef) = true := by
    rw [Bool.and_eq_true, List.all_eq_true]
    exact ⟨by simpa using some', fun r member => isRef_iff.2 (each r member)⟩
  rw [splitRefs, trailingGroup?_of_endsInGroup shape]
  exact if_pos proper

theorem splitRefs_of_not_cites {text : List Char} (plain : ∀ body refs, ¬ Cites text body refs) :
    splitRefs text = (text, []) := by
  unfold splitRefs
  split
  · rfl
  · next body inner group =>
    refine if_neg fun proper => ?_
    obtain ⟨some', each⟩ := Bool.and_eq_true_iff.1 proper
    refine plain body _ ⟨by simpa using some', fun r member => ?_, inner,
      endsInGroup_of_trailingGroup? group, rfl⟩
    exact isRef_iff.1 (List.all_eq_true.1 each r member)

theorem map_trim_splitWhen_space (cs : List Char) :
    (splitWhen (· = ',') (' ' :: cs)).map trim = (splitWhen (· = ',') cs).map trim := by
  obtain ⟨piece, pieces, split⟩ := List.exists_cons_of_ne_nil (splitWhen_ne_nil (p := (· = ',')) cs)
  have first : trim (' ' :: piece) = trim piece := by
    rw [trim, trimLeft_blank isBlank_space]
    rfl
  rw [splitWhen, split]
  simp [first]

theorem map_trim_splitWhen_intercalate {refs : List (List Char)} (some' : refs ≠ [])
    (each : ∀ r ∈ refs, trim r = r ∧ ∀ c ∈ r, c ≠ ',') :
    (splitWhen (· = ',') ([',', ' '].intercalate refs)).map trim = refs := by
  induction refs with
  | nil => exact absurd rfl some'
  | cons r refs ih =>
    obtain ⟨trimmed, apart⟩ := each r List.mem_cons_self
    have clean : ∀ c ∈ r, decide (c = ',') = false := by simpa using apart
    cases refs with
    | nil => rw [List.intercalate_singleton, splitWhen_of_none clean, List.map_singleton, trimmed]
    | cons s more =>
      have rest := ih (List.cons_ne_nil s more) fun u later => each u (List.mem_cons_of_mem _ later)
      rw [List.intercalate_cons_cons, List.append_assoc, List.cons_append, List.singleton_append,
        splitWhen_append clean (by decide), List.map_cons, trimmed, map_trim_splitWhen_space, rest]

theorem cites_joined {body : List Char} {refs : List (List Char)} (some' : body ≠ [])
    (ends : EndsDark body) (any : refs ≠ [])
    (each : ∀ r ∈ refs, trim r = r ∧ IsRef r ∧ ∀ c ∈ r, c ≠ ',' ∧ c ≠ '(' ∧ c ≠ ')') :
    Cites (body ++ " (".toList ++ [',', ' '].intercalate refs ++ ")".toList) body refs := by
  refine ⟨some', fun r member => (each r member).2.1, [',', ' '].intercalate refs,
    ⟨ends, ?_, [' '], [], List.forall_mem_singleton.2 isBlank_space, by simp, by simp⟩, ?_⟩
  · intro c inside
    rcases mem_of_mem_intercalate inside with between | ⟨r, member, deeper⟩
    · have marks : ∀ d ∈ [',', ' '], d ≠ '(' ∧ d ≠ ')' := by simp
      exact marks c between
    · exact ((each r member).2.2 c deeper).2
  · refine (map_trim_splitWhen_intercalate any fun r member => ?_).symm
    obtain ⟨trimmed, _, apart⟩ := each r member
    exact ⟨trimmed, fun c inside => (apart c inside).1⟩

/-- A body and references that are joined are split again, and a text that is split consists of the
body and the references. All other texts stay whole. -/
theorem splitRefs_exact :
    (∀ body refs, body ≠ [] → EndsDark body → refs ≠ [] →
      (∀ r ∈ refs, trim r = r ∧ IsRef r ∧ ∀ c ∈ r, c ≠ ',' ∧ c ≠ '(' ∧ c ≠ ')') →
      splitRefs (body ++ " (".toList ++ [',', ' '].intercalate refs ++ ")".toList) =
        (body, refs)) ∧
    ∀ text, (splitRefs text = (text, []) ∧ ∀ body refs, ¬ Cites text body refs) ∨
      ∃ body refs, splitRefs text = (body, refs) ∧ Cites text body refs := by
  constructor
  · intro body refs some' ends any each
    exact splitRefs_of_cites (cites_joined some' ends any each)
  · intro text
    by_cases cited : ∃ body refs, Cites text body refs
    · obtain ⟨body, refs, cites⟩ := cited
      exact .inr ⟨body, refs, splitRefs_of_cites cites, cites⟩
    · have plain : ∀ body refs, ¬ Cites text body refs :=
        fun body refs cites => cited ⟨body, refs, cites⟩
      exact .inl ⟨splitRefs_of_not_cites plain, plain⟩

/-- The body has a group of its own, a comma and an address. -/
theorem splitRefs_nestedGroups :
    let body := "keys (#1, http://a.b), rotated (#2)".toList
    let refs := ["#12".toList, "https://example.com/a b".toList, "#ü://".toList]
    body ≠ [] ∧ EndsDark body ∧ refs ≠ [] ∧
      (∀ r ∈ refs, trim r = r ∧ IsRef r ∧ ∀ c ∈ r, c ≠ ',' ∧ c ≠ '(' ∧ c ≠ ')') ∧
      splitRefs "keys (#1, http://a.b), rotated (#2) (#12, https://example.com/a b, #ü://)".toList =
        (body, refs) := by
  intro body refs
  have ends : EndsDark body :=
    endsDark_concat (by decide) "keys (#1, http://a.b), rotated (#2".toList
  have checked : (refs.all fun r => trim r = r && isRef r &&
      r.all fun c => c ≠ ',' && !isParenthesis c) = true := by decide +kernel
  have each : ∀ r ∈ refs, trim r = r ∧ IsRef r ∧ ∀ c ∈ r, c ≠ ',' ∧ c ≠ '(' ∧ c ≠ ')' := by
    intro r member
    have proper := List.all_eq_true.1 checked r member
    simp only [Bool.and_eq_true, decide_eq_true_eq, isRef_iff, List.all_eq_true,
      Bool.not_eq_true', isParenthesis_eq_false, and_assoc] at proper
    exact proper
  refine ⟨by decide, ends, by decide, each, ?_⟩
  exact splitRefs_exact.1 body refs (by decide) ends (by decide) each

end ThreatModel.Tag
