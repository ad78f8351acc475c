import Mathlib.Data.List.Basic
import ThreatModel.Proofs.Text.Letter
import ThreatModel.Text.Lowercase

namespace ThreatModel.Text

def IsLower (c : Char) : Prop := lowerChar c = [c] ∧ c ≠ '\u03a3'

instance (c : Char) : Decidable (IsLower c) := inferInstanceAs (Decidable (_ ∧ _))

theorem lowerByRuns_cases (runs : List CaseRun) (n : Nat) :
    lowerByRuns runs n = n ∨ ∃ run ∈ runs, run.first ≤ n ∧ n ≤ run.last ∧
      (n - run.first) % run.step = 0 ∧ lowerByRuns runs n = (n + run.shift).toNat := by
  induction runs with
  | nil => exact .inl rfl
  | cons run rest ih =>
    rw [lowerByRuns]
    split
    · exact .inl rfl
    · split
      · rename_i inside
        exact .inr ⟨run, List.mem_cons_self, by omega, inside.1, inside.2, rfl⟩
      · rcases ih with same | ⟨other, member, shifted⟩
        · exact .inl same
        · exact .inr ⟨other, List.mem_cons_of_mem _ member, shifted⟩

/-- Whether no code point from `low` to `high` is in a run, or with `alternate` none of every second
one. Written with operations that are fast to evaluate. -/
def missed (low high : Nat) (alternate : Bool) : List CaseRun → Bool
  | [] => true
  | run :: rest =>
    bif Nat.blt high run.first then true
    else (Nat.blt run.last low ||
        (alternate && Nat.beq run.step 2 && Nat.beq ((low + run.first) % 2) 1)) &&
      missed low high alternate rest

theorem lowerByRuns_of_missed {low high : Nat} {alternate : Bool} {runs : List CaseRun}
    (apart : missed low high alternate runs = true) {n : Nat} (above : low ≤ n) (below : n ≤ high)
    (onStep : alternate = true → (n - low) % 2 = 0) : lowerByRuns runs n = n := by
  induction runs with
  | nil => rfl
  | cons run rest ih =>
    rw [lowerByRuns]
    by_cases before : n < run.first
    · rw [if_pos before]
    · have reached : Nat.blt high run.first = false := by
        rw [Bool.eq_false_iff, Ne, Nat.blt_eq]
        omega
      rw [missed, reached, cond_false, Bool.and_eq_true] at apart
      have outside : ¬ (n ≤ run.last ∧ (n - run.first) % run.step = 0) := by
        simp only [Bool.or_eq_true, Bool.and_eq_true, Nat.blt_eq, Nat.beq_eq] at apart
        rcases apart.1 with behind | ⟨⟨every, two⟩, odd⟩
        · omega
        · have even := onStep every
          rw [two]
          omega
      rw [if_neg before, if_neg outside, ih apart.2]

def CaseRun.target (run : CaseRun) : Nat × Nat :=
  ((run.first + run.shift).toNat, (run.last + run.shift).toNat)

theorem lowerRuns_missed : lowerRuns.all (fun run => missed run.target.1 run.target.2
    (Nat.beq run.step 2 || Nat.beq run.first run.last) lowerRuns) = true := by
  decide +kernel

theorem lowerRuns_target : ∀ run ∈ lowerRuns, 0 ≤ run.first + run.shift ∧
    (run.target.2 < 0x130 ∨ 0x130 < run.target.1) ∧
    (run.target.2 < 0xd800 ∨ 0xdfff < run.target.1 ∧ run.target.2 < 0x110000) ∧
    (run.step = 1 ∨ run.step = 2) := by
  decide +kernel

theorem isLower_shifted {run : CaseRun} (member : run ∈ lowerRuns) {n : Nat} (low : run.first ≤ n)
    (high : n ≤ run.last) (onStep : (n - run.first) % run.step = 0) :
    IsLower (Char.ofNat (n + run.shift).toNat) := by
  have apart := List.all_eq_true.1 lowerRuns_missed run member
  obtain ⟨positive, dotted, proper, steps⟩ := lowerRuns_target run member
  generalize target : (n + run.shift).toNat = m
  simp only [CaseRun.target] at apart dotted proper
  have fixed : lowerByRuns lowerRuns m = m := by
    refine lowerByRuns_of_missed apart (by omega) (by omega) fun every => ?_
    simp only [Bool.or_eq_true, Nat.beq_eq] at every
    rcases every with two | single
    · rw [two] at onStep
      omega
    · omega
  have valid : m.isValidChar := by
    simp only [Nat.isValidChar]
    omega
  have code : (Char.ofNat m).toNat = m := by
    rw [Char.ofNat, dif_pos valid]
    rfl
  have undotted : Char.ofNat m ≠ '\u0130' := by
    intro same
    have point : m = 0x130 := code ▸ congrArg Char.toNat same
    omega
  refine ⟨?_, ?_⟩
  · rw [lowerChar, if_neg undotted, code, fixed]
  · intro same
    have point : m = 0x3a3 := code ▸ congrArg Char.toNat same
    rw [point] at fixed
    exact absurd fixed (by decide)

theorem isLower_of_mem_lowerChar {c d : Char} (notSigma : c ≠ '\u03a3') (member : d ∈ lowerChar c) :
    IsLower d := by
  by_cases dotted : c = '\u0130'
  · subst dotted
    have both : (lowerChar '\u0130').all (fun e => IsLower e) = true := by decide
    exact of_decide_eq_true (List.all_eq_true.1 both d member)
  · have shape : lowerChar c = [Char.ofNat (lowerByRuns lowerRuns c.toNat)] := if_neg dotted
    rcases lowerByRuns_cases lowerRuns c.toNat with same | shifted
    · rw [same, Char.ofNat_toNat] at shape
      rw [shape, List.mem_singleton] at member
      subst member
      exact ⟨shape, notSigma⟩
    · obtain ⟨run, inside, low, high, onStep, shifted⟩ := shifted
      rw [shape, shifted, List.mem_singleton] at member
      subst member
      exact isLower_shifted inside low high onStep

theorem isLower_of_mem_lowercaseAfter {before cs : List Char} {d : Char}
    (member : d ∈ lowercaseAfter before cs) : IsLower d := by
  induction cs generalizing before with
  | nil => cases member
  | cons c cs ih =>
    rcases List.mem_append.1 member with here | later
    · split at here
      · rcases List.mem_singleton.1 here with rfl
        split <;> decide
      · exact isLower_of_mem_lowerChar ‹_› here
    · exact ih later

theorem isLower_of_mem_lowercase {cs : List Char} {d : Char} (member : d ∈ lowercase cs) :
    IsLower d :=
  isLower_of_mem_lowercaseAfter member

theorem lowercase_eq_self {cs : List Char} (lower : ∀ c ∈ cs, IsLower c) : lowercase cs = cs := by
  have after (before : List Char) : lowercaseAfter before cs = cs := by
    induction cs generalizing before with
    | nil => rfl
    | cons c cs ih =>
      have ⟨alone, notSigma⟩ := lower c List.mem_cons_self
      rw [lowercaseAfter, if_neg notSigma, alone,
        ih (fun d later => lower d (List.mem_cons_of_mem _ later)) (c :: before)]
      rfl
  exact after []

/-- A character that ends a word for a sigma: it is not cased, and no cased one is looked for beyond
it. -/
def IsCaseless (c : Char) : Prop := isCased c = false ∧ isCaseIgnorable c = false

instance (c : Char) : Decidable (IsCaseless c) := inferInstanceAs (Decidable (_ ∧ _))

theorem startsCased_cons (c : Char) (cs : List Char) :
    startsCased (c :: cs) = if isCaseIgnorable c then startsCased cs else isCased c := by
  unfold startsCased
  rw [List.dropWhile_cons]
  split <;> simp

theorem startsCased_of_isCaseless {c : Char} (caseless : IsCaseless c) (cs : List Char) :
    startsCased (c :: cs) = false := by
  rw [startsCased_cons, caseless.2]
  exact caseless.1

theorem startsCased_append_cons {c : Char} (caseless : IsCaseless c) (cs rest : List Char) :
    startsCased (cs ++ c :: rest) = startsCased cs := by
  induction cs with
  | nil => exact startsCased_of_isCaseless caseless rest
  | cons d cs ih => rw [List.cons_append, startsCased_cons, startsCased_cons, ih]

theorem lowercaseAfter_congr {before other : List Char}
    (same : startsCased before = startsCased other) (cs : List Char) :
    lowercaseAfter before cs = lowercaseAfter other cs := by
  induction cs generalizing before other with
  | nil => rfl
  | cons c cs ih =>
    have later : startsCased (c :: before) = startsCased (c :: other) := by
      rw [startsCased_cons, startsCased_cons, same]
    rw [lowercaseAfter, lowercaseAfter, same, ih later]

theorem lowercase_append_cons {c : Char} (caseless : IsCaseless c) (cs rest : List Char) :
    lowercase (cs ++ c :: rest) = lowercase cs ++ (lowerChar c ++ lowercase rest) := by
  have notSigma : c ≠ '\u03a3' := by
    intro same
    subst same
    exact absurd caseless.1 (by decide)
  have after (before : List Char) : lowercaseAfter before (cs ++ c :: rest) =
      lowercaseAfter before cs ++ (lowerChar c ++ lowercase rest) := by
    induction cs generalizing before with
    | nil =>
      have fresh : startsCased (c :: before) = startsCased [] :=
        startsCased_of_isCaseless caseless before
      show lowercaseAfter before (c :: rest) = lowerChar c ++ lowercase rest
      rw [lowercaseAfter, if_neg notSigma, lowercaseAfter_congr fresh]
      rfl
    | cons d cs ih =>
      rw [List.cons_append, lowercaseAfter, lowercaseAfter, ih,
        startsCased_append_cons caseless, List.append_assoc]
  exact after []

theorem blankRanges_caseless :
    ∀ r ∈ blankRanges, ∀ n ∈ List.range' r.1 (r.2 + 1 - r.1),
      inRanges casedRanges n = false ∧ inRanges caseIgnorableRanges n = false ∧
        lowerByRuns lowerRuns n = n := by
  decide +kernel

theorem lowercase_append_blank {c : Char} (blank : isBlank c = true) (cs rest : List Char) :
    lowercase (cs ++ c :: rest) = lowercase cs ++ c :: lowercase rest := by
  obtain ⟨r, member, inside⟩ := exists_blankRange blank
  obtain ⟨cased, ignorable, lower⟩ := blankRanges_caseless r member _ inside
  have undotted : c ≠ '\u0130' := by
    intro same
    subst same
    exact absurd blank (by decide)
  have alone : lowerChar c = [c] := by rw [lowerChar, if_neg undotted, lower, Char.ofNat_toNat]
  rw [lowercase_append_cons ⟨cased, ignorable⟩, alone, List.singleton_append]

end ThreatModel.Text
