import Mathlib.Order.Bounds.Basic
import ThreatModel.Proofs.Text.Letter
import ThreatModel.Proofs.Text.Pattern
import ThreatModel.Proofs.Text.Words

namespace ThreatModel.Text.Pattern

variable {α β : Type}

/-- The pattern reads nothing where a text goes on with a character that is not blank. -/
def NeedsGap (p : Pattern α) : Prop := ∀ cs, p cs ≠ [] → AtGap cs

theorem needsGap_gap : NeedsGap gap := by
  intro cs reads c here
  cases blank : isBlank c with
  | true => rfl
  | false =>
    cases cs with
    | nil => cases here
    | cons d cs =>
      obtain rfl := Option.some.inj here
      refine absurd ?_ reads
      show (run isBlank (d :: cs)).flatMap _ = []
      rw [run, blank, if_neg Bool.false_ne_true]
      rfl

theorem NeedsGap.bind {p : Pattern α} (h : NeedsGap p) (f : α → Pattern β) :
    NeedsGap (p >>= f) := by
  intro cs reads
  refine h cs fun nothing => reads ?_
  rw [bind_apply, nothing]
  rfl

theorem bind_nil {p : Pattern α} (h : p [] = []) (f : α → Pattern β) : (p >>= f) [] = [] := by
  rw [bind_apply, h]
  rfl

theorem NeedsGap.atGap {p : Pattern α} (h : NeedsGap p) {cs : List Char} {a : α}
    (read : p.readAll? cs = some a) : AtGap cs := by
  refine h cs fun nothing => ?_
  rw [readAll?, nothing] at read
  cases read

structure ReadsWord (p : Pattern α) (Spelt : List Char → α → Prop) : Prop where
  reads : Matches p Spelt
  isWord : ∀ {w a}, Spelt w a → IsWord w
  unique : ∀ {w a b}, Spelt w a → Spelt w b → a = b

theorem isWord_of_isKeyword {word : String} (proper : IsWord word.toList) {w : List Char}
    (spelt : IsKeyword word w) : IsWord w := by
  obtain ⟨nonempty, dark⟩ := proper
  constructor
  · intro same
    subst same
    exact nonempty (List.forall₂_nil_right_iff.1 spelt)
  · unfold IsKeyword at spelt
    generalize word.toList = letters at dark spelt
    induction spelt with
    | nil =>
      intro c inside
      cases inside
    | cons here _ ih =>
      intro c inside
      rcases List.mem_cons.1 inside with rfl | later
      · exact isBlank_of_isCaseOf here (dark _ List.mem_cons_self)
      · exact ih (fun d deeper => dark d (List.mem_cons_of_mem _ deeper)) c later

theorem keyword_nil {word : String} (proper : IsWord word.toList) : keyword word [] = [] := by
  obtain ⟨c, letters, spelt⟩ := List.exists_cons_of_ne_nil proper.1
  rw [keyword, spelt]
  rfl

theorem readsWord_keyword {word : String} (proper : IsWord word.toList) :
    ReadsWord (keyword word) fun w _ => IsKeyword word w where
  reads := matches_keyword word
  isWord := isWord_of_isKeyword proper
  unique := fun _ _ => rfl

section Words

variable {ws : List (List Char)} (proper : ∀ w ∈ ws, IsWord w)

include proper

theorem ReadsWord.readAll?_bind {p : Pattern α} {Spelt : List Char → α → Prop}
    (h : ReadsWord p Spelt) {f : α → Pattern β} (gapped : ∀ a, NeedsGap (f a)) {b : β} :
    (p >>= f).readAll? (unwords ws) = some b ↔
      ∃ a, (∃ w ∈ ws[0]?, Spelt w a) ∧ (f a).readAll? (tailWords (ws.drop 1)) = some b := by
  cases ws with
  | nil =>
    constructor
    · intro read
      rw [Pattern.readAll?_bind] at read
      obtain ⟨⟨a, rest⟩, found, _⟩ := List.exists_of_findSome?_eq_some read
      obtain ⟨u, whole, spelt⟩ := (h.reads _ _ _).1 found
      exact absurd (List.append_eq_nil_iff.1 whole.symm).1 (h.isWord spelt).1
    · intro h
      obtain ⟨a, ⟨w, none, _⟩, _⟩ := h
      cases none
  | cons w ws =>
    have word := proper w List.mem_cons_self
    -- what can be gone on from ends at a gap, and so took the whole word
    have stop : ∀ {a rest c}, (a, rest) ∈ p (w ++ tailWords ws) →
        (f a).readAll? rest = some c → Spelt w a ∧ rest = tailWords ws := by
      intro a rest c found read
      obtain ⟨u, whole, spelt⟩ := (h.reads _ _ _).1 found
      obtain ⟨rfl, equal⟩ := cut_unique word.2 (h.isWord spelt).2 (atGap_tailWords ws)
        ((gapped a).atGap read) whole
      exact ⟨spelt, equal.symm⟩
    rw [unwords_cons, Pattern.readAll?_bind]
    constructor
    · intro read
      obtain ⟨⟨a, rest⟩, found, later⟩ := List.exists_of_findSome?_eq_some read
      obtain ⟨spelt, rfl⟩ := stop found later
      exact ⟨a, ⟨w, rfl, spelt⟩, later⟩
    · intro h
      obtain ⟨a, ⟨v, here, spelt⟩, later⟩ := h
      obtain rfl := Option.some.inj here
      have found : (a, tailWords ws) ∈ p (w ++ tailWords ws) := (h.reads _ _ _).2 ⟨w, rfl, spelt⟩
      have some : ((p (w ++ tailWords ws)).findSome? fun x => (f x.1).readAll? x.2).isSome :=
        List.findSome?_isSome_iff.2 ⟨_, found, Option.isSome_iff_exists.2 ⟨b, later⟩⟩
      obtain ⟨c, read⟩ := Option.isSome_iff_exists.1 some
      obtain ⟨⟨a', rest⟩, found', later'⟩ := List.exists_of_findSome?_eq_some read
      obtain ⟨spelt', rfl⟩ := stop found' later'
      obtain rfl := h.unique spelt spelt'
      rw [read, ← later', ← later]
      rfl

theorem gap_tailWords : gap (tailWords ws) = if ws = [] then [] else [((), unwords ws)] := by
  cases ws with
  | nil => rfl
  | cons w ws =>
    have word := proper w List.mem_cons_self
    have stop : run isBlank (unwords (w :: ws)) = [] := by
      obtain ⟨c, w', rfl⟩ := List.exists_cons_of_ne_nil word.1
      rw [unwords_cons, List.cons_append, run, word.2 c List.mem_cons_self,
        if_neg Bool.false_ne_true]
    rw [tailWords_cons, if_neg (List.cons_ne_nil w ws)]
    show (run isBlank (' ' :: unwords (w :: ws))).flatMap _ = _
    rw [run, if_pos isBlank_space, stop]
    rfl

theorem readAll?_gap {f : Pattern β} (strict : f [] = []) :
    (gap >>= fun _ => f).readAll? (tailWords ws) = f.readAll? (unwords ws) := by
  rw [Pattern.readAll?_bind, gap_tailWords proper]
  by_cases none : ws = []
  · subst none
    rw [if_pos rfl, readAll?, show unwords [] = [] from rfl, strict]
    rfl
  · rw [if_neg none]
    simp

theorem ReadsWord.readAll?_gap {p : Pattern α} {Spelt : List Char → α → Prop}
    (h : ReadsWord p Spelt) {f : α → Pattern β} (strict : ∀ a, f a [] = []) {b : β} :
    (p >>= fun a => gap >>= fun _ => f a).readAll? (unwords ws) = some b ↔
      ∃ a, (∃ w ∈ ws[0]?, Spelt w a) ∧ (f a).readAll? (unwords (ws.drop 1)) = some b := by
  have rest : ∀ w ∈ ws.drop 1, IsWord w := fun w found => proper w (List.mem_of_mem_drop found)
  rw [h.readAll?_bind proper fun a => needsGap_gap.bind _]
  simp only [Pattern.readAll?_gap rest (strict _)]

theorem readAll?_remainder {text : List Char} :
    remainder.readAll? (unwords ws) = some text ↔ ws ≠ [] ∧ text = unwords ws := by
  cases ws with
  | nil =>
    constructor
    · intro read
      cases read
    · intro h
      obtain ⟨none, _⟩ := h
      exact absurd rfl none
  | cons w ws =>
    obtain ⟨c, w', rfl⟩ := List.exists_cons_of_ne_nil (proper w List.mem_cons_self).1
    rw [unwords_cons, List.cons_append]
    show some _ = some text ↔ _
    simp [eq_comm]

end Words

/-- The numbers of words after which `q` reads what follows them. -/
def Ends (q : Pattern β) (ws : List (List Char)) : Set Nat :=
  {n | 0 < n ∧ n ≤ ws.length ∧ ∃ b, q.readAll? (tailWords (ws.drop n)) = some b}

theorem succ_mem_ends {q : Pattern β} {w : List Char} {ws : List (List Char)} {n : Nat} :
    n + 1 ∈ Ends q (w :: ws) ↔
      (n = 0 ∧ ∃ b, q.readAll? (tailWords ws) = some b) ∨ n ∈ Ends q ws := by
  simp only [Ends, Set.mem_ofPred_eq, List.length_cons, List.drop_succ_cons]
  cases n with
  | zero => simp
  | succ n => simp

theorem isLeast_ends_succ {q : Pattern β} {w : List Char} {ws : List (List Char)} {n : Nat}
    (goesOn : ∀ b, q.readAll? (tailWords ws) ≠ some b) :
    IsLeast (Ends q (w :: ws)) (n + 1) ↔ IsLeast (Ends q ws) n := by
  have shifted : ∀ {m}, m + 1 ∈ Ends q (w :: ws) ↔ m ∈ Ends q ws := by
    intro m
    rw [succ_mem_ends]
    simp [goesOn]
  constructor
  · intro h
    obtain ⟨inside, least⟩ := h
    exact ⟨shifted.1 inside, fun m other => Nat.le_of_succ_le_succ (least (shifted.2 other))⟩
  · intro h
    obtain ⟨inside, least⟩ := h
    refine ⟨shifted.2 inside, ?_⟩
    intro m other
    obtain ⟨m, rfl⟩ := Nat.exists_eq_succ_of_ne_zero (Nat.ne_of_gt other.1)
    exact Nat.succ_le_succ (least (shifted.1 other))

theorem take_ne_nil_of_mem_ends {q : Pattern β} {ws : List (List Char)} {n : Nat}
    (inside : n ∈ Ends q ws) : ws.take n ≠ [] := by
  intro none
  have empty := congrArg List.length none
  have positive := inside.1
  have bound := inside.2.1
  rw [List.length_take, List.length_nil] at empty
  omega

section UpTo

variable {q : Pattern β}

variable (gapped : NeedsGap q)

include gapped

theorem readAll?_eq_none_of_word {w : List Char} (word : IsWord w) (rest : List Char) :
    q.readAll? (w ++ rest) = none := by
  obtain ⟨c, w', rfl⟩ := List.exists_cons_of_ne_nil word.1
  cases read : q.readAll? (c :: w' ++ rest) with
  | none => rfl
  | some b =>
    have blank := gapped.atGap read c rfl
    rw [word.2 c List.mem_cons_self] at blank
    cases blank

theorem readAll?_upTo_append {w : List Char} (word : IsWord w) (rest : List Char) :
    (upTo q).readAll? (w ++ rest) =
      ((q.readAll? rest).map (w, ·)).or
        (((upTo q).readAll? rest).map fun x => (w ++ x.1, x.2)) := by
  induction w with
  | nil => exact absurd rfl word.1
  | cons c w ih =>
    rw [List.cons_append, readAll?_upTo_cons]
    cases w with
    | nil => rfl
    | cons d w =>
      have later : IsWord (d :: w) :=
        ⟨List.cons_ne_nil d w, fun e inside => word.2 e (List.mem_cons_of_mem _ inside)⟩
      rw [readAll?_eq_none_of_word gapped later rest, ih later]
      cases q.readAll? rest with
      | some b => rfl
      | none => cases (upTo q).readAll? rest <;> rfl

variable {ws : List (List Char)} (proper : ∀ w ∈ ws, IsWord w)

include proper

theorem readAll?_upTo_tailWords :
    (upTo q).readAll? (tailWords ws) =
      ((upTo q).readAll? (unwords ws)).map fun x => (' ' :: x.1, x.2) := by
  cases ws with
  | nil => rfl
  | cons w ws =>
    have nothing : q.readAll? (unwords (w :: ws)) = none := by
      rw [unwords_cons]
      exact readAll?_eq_none_of_word gapped (proper w List.mem_cons_self) _
    rw [tailWords_cons, readAll?_upTo_cons, nothing]
    rfl

theorem readAll?_upTo {part : List Char} {b : β} :
    (upTo q).readAll? (unwords ws) = some (part, b) ↔
      ∃ n, IsLeast (Ends q ws) n ∧ part = unwords (ws.take n) ∧
        q.readAll? (tailWords (ws.drop n)) = some b := by
  induction ws generalizing part with
  | nil =>
    constructor
    · intro read
      cases read
    · intro h
      obtain ⟨n, ⟨⟨positive, bound, _⟩, _⟩, _⟩ := h
      exact absurd (Nat.lt_of_lt_of_le positive bound) (Nat.lt_irrefl 0)
  | cons w ws ih =>
    have rest : ∀ v ∈ ws, IsWord v := fun v found => proper v (List.mem_cons_of_mem _ found)
    rw [unwords_cons, readAll?_upTo_append gapped (proper w List.mem_cons_self),
      readAll?_upTo_tailWords gapped rest]
    cases first : q.readAll? (tailWords ws) with
    | some b' =>
      -- the part can end after its first word, which no other end comes before
      have least : IsLeast (Ends q (w :: ws)) 1 :=
        ⟨succ_mem_ends.2 (.inl ⟨rfl, b', first⟩), fun n other => other.1⟩
      constructor
      · intro read
        obtain ⟨rfl, rfl⟩ := Prod.mk.inj (Option.some.inj read)
        exact ⟨1, least, by simp [unwords_cons, tailWords], first⟩
      · intro h
        obtain ⟨n, other, rfl, read⟩ := h
        obtain rfl := least.unique other
        rw [List.drop_succ_cons, List.drop_zero, first] at read
        obtain rfl := Option.some.inj read
        simp [unwords_cons, tailWords]
    | none =>
      have goesOn : ∀ b, q.readAll? (tailWords ws) ≠ some b := by simp [first]
      constructor
      · intro read
        simp only [Option.map_none, Option.none_or, Option.map_map, Option.map_eq_some_iff] at read
        obtain ⟨⟨part', b'⟩, found, same⟩ := read
        obtain ⟨rfl, rfl⟩ := Prod.mk.inj same
        obtain ⟨n, least, rfl, later⟩ := (ih rest).1 found
        refine ⟨n + 1, (isLeast_ends_succ goesOn).2 least, ?_, later⟩
        rw [List.take_succ_cons, unwords_cons_of_ne_nil w (take_ne_nil_of_mem_ends least.1)]
      · intro h
        obtain ⟨n, least, rfl, later⟩ := h
        obtain ⟨n, rfl⟩ := Nat.exists_eq_succ_of_ne_zero (Nat.ne_of_gt least.1.1)
        have least' := (isLeast_ends_succ goesOn).1 least
        rw [(ih rest).2 ⟨n, least', rfl, later⟩, List.take_succ_cons,
          unwords_cons_of_ne_nil w (take_ne_nil_of_mem_ends least'.1)]
        rfl

theorem readAll?_upTo_drop {k : Nat} {S : Set Nat} (above : ∀ j ∈ S, k ≤ j)
    (same : ∀ n, n ∈ Ends q (ws.drop k) ↔ n + k ∈ S) {part : List Char} {b : β} :
    (upTo q).readAll? (unwords (ws.drop k)) = some (part, b) ↔
      ∃ j, IsLeast S j ∧ part = unwords ((ws.take j).drop k) ∧
        q.readAll? (tailWords (ws.drop j)) = some b := by
  have kept : ∀ w ∈ ws.drop k, IsWord w := fun w found => proper w (List.mem_of_mem_drop found)
  rw [readAll?_upTo gapped kept]
  constructor
  · intro h
    obtain ⟨n, least, rfl, later⟩ := h
    refine ⟨n + k, ⟨(same n).1 least.1, ?_⟩, ?_, ?_⟩
    · intro j other
      obtain ⟨m, rfl⟩ := Nat.exists_eq_add_of_le' (above j other)
      exact Nat.add_le_add_right (least.2 ((same m).2 other)) k
    · rw [List.drop_take, Nat.add_sub_cancel]
    · rwa [List.drop_drop, Nat.add_comm] at later
  · intro h
    obtain ⟨j, least, rfl, later⟩ := h
    obtain ⟨n, rfl⟩ := Nat.exists_eq_add_of_le' (above j least.1)
    refine ⟨n, ⟨(same n).2 least.1, ?_⟩, ?_, ?_⟩
    · intro m other
      exact Nat.le_of_add_le_add_right (least.2 ((same m).1 other))
    · rw [List.drop_take, Nat.add_sub_cancel]
    · rwa [List.drop_drop, Nat.add_comm]

end UpTo

end ThreatModel.Text.Pattern
