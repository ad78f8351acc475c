import ThreatModel.Schema.Intermediate

namespace ThreatModel

theorem CharSet.contains_space_complement {c : Char} :
    space.complement.contains c = true ↔ c ∉ spaces := by
  have shape : space.complement.contains c =
      ((space.ranges.any fun r => r.1 ≤ c.toNat && c.toNat ≤ r.2) != true) := rfl
  have inside : (space.ranges.any fun r => r.1 ≤ c.toNat && c.toNat ≤ r.2) = true ↔
      c ∈ spaces := by
    simp only [space, List.any_map, List.any_eq_true, Function.comp, Bool.and_eq_true,
      decide_eq_true_eq]
    constructor
    · intro h
      obtain ⟨d, member, low, high⟩ := h
      rwa [Char.toNat_inj.1 (Nat.le_antisymm high low)]
    · intro member
      exact ⟨c, member, Nat.le_refl _, Nat.le_refl _⟩
  rw [← inside, shape, bne_iff_ne]

namespace Regex

variable {size : Nat} {cs rest : List Char}

theorem mem_ends_seq {r s : Regex} :
    rest ∈ ends size (.seq r s) cs ↔ ∃ middle ∈ ends size r cs, rest ∈ ends size s middle := by
  rw [ends, List.mem_flatMap]

theorem mem_ends_start : rest ∈ ends size .start cs ↔ cs.length = size ∧ rest = cs := by
  rw [ends]
  split <;> simp_all

theorem mem_ends_finish : rest ∈ ends size .finish cs ↔ cs = [] ∧ rest = [] := by
  cases cs <;> simp [ends]

theorem mem_ends_one {s : CharSet} :
    rest ∈ ends size (.one s) cs ↔ ∃ c, s.contains c = true ∧ cs = c :: rest := by
  cases cs with
  | nil => simp [ends]
  | cons d cs =>
    rw [ends]
    cases here : s.contains d with
    | true =>
      rw [if_pos rfl, List.mem_singleton]
      constructor
      · intro same
        exact ⟨d, here, by rw [same]⟩
      · intro h
        obtain ⟨c, _, same⟩ := h
        exact (List.cons.inj same).2.symm
    | false =>
      rw [if_neg Bool.false_ne_true]
      constructor
      · intro found
        cases found
      · intro h
        obtain ⟨c, holds, same⟩ := h
        rw [(List.cons.inj same).1, holds] at here
        cases here

theorem mem_ends_char {c : Char} : rest ∈ ends size (.char c) cs ↔ cs = c :: rest := by
  rw [char, mem_ends_one]
  have single (d : Char) : (CharSet.single c).contains d = true ↔ d = c := by
    simp only [CharSet.contains, CharSet.single, List.any_cons, List.any_nil, Bool.or_false,
      bne_iff_ne, ne_eq, Bool.not_eq_false, Bool.and_eq_true, decide_eq_true_eq]
    constructor
    · intro h
      exact Char.toNat_inj.1 (Nat.le_antisymm h.2 h.1)
    · intro same
      exact same ▸ ⟨Nat.le_refl _, Nat.le_refl _⟩
  simp only [single, exists_eq_left]

theorem mem_iterate_one {s : CharSet} {fuel : Nat} :
    rest ∈ iterate (ends size (.one s)) fuel cs ↔
      ∃ w, w.length ≤ fuel ∧ cs = w ++ rest ∧ ∀ c ∈ w, s.contains c = true := by
  induction fuel generalizing cs with
  | zero =>
    rw [iterate, List.mem_singleton]
    constructor
    · intro same
      exact ⟨[], Nat.le_refl _, same.symm, by simp⟩
    · intro h
      obtain ⟨w, short, rfl, _⟩ := h
      rw [List.eq_nil_of_length_eq_zero (Nat.le_zero.1 short), List.nil_append]
  | succ fuel ih =>
    rw [iterate, List.mem_append, List.mem_flatMap, List.mem_singleton]
    simp only [List.mem_filter, mem_ends_one, ih, decide_eq_true_eq]
    constructor
    · intro h
      rcases h with ⟨_, ⟨⟨c, holds, rfl⟩, _⟩, w, short, rfl, each⟩ | rfl
      · refine ⟨c :: w, Nat.succ_le_succ short, rfl, ?_⟩
        simpa [holds] using each
      · exact ⟨[], Nat.zero_le _, rfl, by simp⟩
    · intro h
      obtain ⟨w, short, rfl, each⟩ := h
      cases w with
      | nil => exact .inr rfl
      | cons c w =>
        refine .inl ⟨w ++ rest, ⟨⟨c, each c List.mem_cons_self, rfl⟩, by simp⟩, w,
          Nat.le_of_succ_le_succ short, rfl, fun d inside => ?_⟩
        exact each d (List.mem_cons_of_mem _ inside)

theorem mem_ends_plus_one {s : CharSet} :
    rest ∈ ends size (.plus (.one s)) cs ↔
      ∃ w, w ≠ [] ∧ cs = w ++ rest ∧ ∀ c ∈ w, s.contains c = true := by
  have repeated {ds : List Char} : rest ∈ ends size (.star (.one s)) ds ↔
      ∃ w, w.length ≤ ds.length ∧ ds = w ++ rest ∧ ∀ c ∈ w, s.contains c = true := by
    rw [ends, mem_iterate_one]
  rw [plus, mem_ends_seq]
  simp only [mem_ends_one, repeated]
  constructor
  · intro h
    obtain ⟨_, ⟨c, holds, rfl⟩, w, _, rfl, each⟩ := h
    refine ⟨c :: w, List.cons_ne_nil _ _, rfl, ?_⟩
    simpa [holds] using each
  · intro h
    obtain ⟨w, some', rfl, each⟩ := h
    cases w with
    | nil => exact absurd rfl some'
    | cons c w =>
      refine ⟨w ++ rest, ⟨c, each c List.mem_cons_self, rfl⟩, w, by simp, rfl, fun d inside => ?_⟩
      exact each d (List.mem_cons_of_mem _ inside)

theorem foundIn_seq_start_of_lt {r : Regex} (shorter : cs.length < size) :
    foundIn size (.seq .start r) cs = false := by
  have nothing {ds : List Char} (short : ds.length < size) : ends size (.seq .start r) ds = [] := by
    refine List.eq_nil_iff_forall_not_mem.2 fun rest found => ?_
    obtain ⟨_, atStart, _⟩ := mem_ends_seq.1 found
    exact absurd (mem_ends_start.1 atStart).1 (Nat.ne_of_lt short)
  induction cs with
  | nil => simp [foundIn, nothing shorter]
  | cons c cs ih =>
    rw [foundIn, nothing shorter, ih (Nat.lt_of_succ_lt shorter)]
    rfl

theorem accepts_seq_start {r : Regex} {text : String} :
    (Regex.seq .start r).accepts text = true ↔
      ∃ rest, rest ∈ ends text.toList.length r text.toList := by
  have atStart : ends text.toList.length (.seq .start r) text.toList =
      ends text.toList.length r text.toList := by
    simp [ends]
  rw [← List.isEmpty_eq_false_iff_exists_mem, ← atStart, accepts]
  cases text.toList with
  | nil => simp [foundIn]
  | cons c cs => simp [foundIn, foundIn_seq_start_of_lt]

end Regex

/-- An `@` and at least one character after it, none of them a space. -/
def Identifier.Proper (id : String) : Prop :=
  ∃ cs, id.toList = '@' :: cs ∧ cs ≠ [] ∧ ∀ c ∈ cs, c ∉ CharSet.spaces

theorem Schema.Intermediate.accepts_identifierPattern {id : String} :
    identifierPattern.regex.accepts id = true ↔ Identifier.Proper id := by
  simp only [identifierPattern, Regex.accepts_seq_start, Regex.mem_ends_seq, Regex.mem_ends_char,
    Regex.mem_ends_plus_one, Regex.mem_ends_finish, CharSet.contains_space_complement,
    Identifier.Proper]
  constructor
  · intro h
    obtain ⟨_, body, spelt, _, ⟨w, some', rfl, each⟩, rfl, _⟩ := h
    rw [List.append_nil] at spelt
    exact ⟨w, spelt, some', each⟩
  · intro h
    obtain ⟨w, spelt, some', each⟩ := h
    exact ⟨[], w, spelt, [], ⟨w, some', (List.append_nil w).symm, each⟩, rfl, rfl⟩

end ThreatModel
