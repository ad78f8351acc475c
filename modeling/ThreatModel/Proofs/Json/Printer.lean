import Mathlib.Data.List.TakeWhile
import ThreatModel.Proofs.Json.Record
import ThreatModel.Proofs.Json.Spelling
import ThreatModel.Proofs.Text.Decimal

namespace ThreatModel.Json

open Text

section Numbers

def Ends (rest : List Char) : Prop :=
  ∀ c ∈ rest.head?, isDigit c = false ∧ c ≠ '.' ∧ c ≠ 'e' ∧ c ≠ 'E'

instance (rest : List Char) : Decidable (Ends rest) :=
  decidable_of_iff (rest.head?.all (fun c => !isDigit c && c != '.' && c != 'e' && c != 'E') = true)
    (by cases rest <;> simp [Ends, and_assoc])

theorem ends_cons {c : Char} (stops : isDigit c = false ∧ c ≠ '.' ∧ c ≠ 'e' ∧ c ≠ 'E')
    (rest : List Char) : Ends (c :: rest) := by
  intro d head
  rw [List.head?_cons, Option.mem_some_iff] at head
  exact head ▸ stops

theorem digits?_append {ds rest : List Char} (digits : ∀ c ∈ ds, isDigit c = true) (some' : ds ≠ [])
    (ends : Ends rest) : digits? (ds ++ rest) = some (ds, rest) := by
  have stop : rest.takeWhile isDigit = [] ∧ rest.dropWhile isDigit = rest := by
    cases rest with
    | nil => exact ⟨rfl, rfl⟩
    | cons c rest => simp [(ends c rfl).1]
  rw [digits?, List.takeWhile_append_of_pos digits, List.dropWhile_append_of_pos digits, stop.1,
    stop.2, List.append_nil]
  simp [some']

theorem wholeDigits?_decimal (n : Nat) {rest : List Char} (ends : Ends rest) :
    wholeDigits? (decimal n ++ rest) = some (decimal n, rest) := by
  have proper : (decimal n).head? = some '0' → (decimal n).length ≤ 1 := by
    intro zero
    rcases Nat.eq_zero_or_pos n with rfl | positive
    · exact Nat.le_of_eq length_decimal_zero
    · exact absurd zero (head_decimal_ne_zero positive)
  rw [wholeDigits?, digits?_append (isDigit_of_mem_decimal n) (decimal_ne_nil n) ends]
  simpa using proper

theorem fraction?_of_ends {rest : List Char} (ends : Ends rest) :
    fraction? rest = some (none, rest) := by
  cases rest with
  | nil => rfl
  | cons c rest =>
    have point := (ends c rfl).2.1
    rw [fraction?]
    intro cs same
    exact point (List.cons.inj same).1

theorem exponent?_of_ends {rest : List Char} (ends : Ends rest) :
    exponent? rest = some (none, rest) := by
  cases rest with
  | nil => rfl
  | cons c rest =>
    have ⟨_, _, lower, upper⟩ := ends c rfl
    simp [exponent?, lower, upper]

def Numeral.ofInt : Int → Numeral
  | .ofNat n => { negative := false, whole := decimal n }
  | .negSucc n => { negative := true, whole := decimal (n + 1) }

theorem head_decimal (n : Nat) : ∃ c cs, decimal n = c :: cs ∧ isDigit c = true := by
  obtain ⟨c, cs, shape⟩ := List.exists_cons_of_ne_nil (decimal_ne_nil n)
  exact ⟨c, cs, shape, isDigit_of_mem_decimal n c (shape ▸ List.mem_cons_self)⟩

theorem numeral?_decimalInt (i : Int) {rest : List Char} (ends : Ends rest) :
    numeral? (decimalInt i ++ rest) = some (.ofInt i, rest) := by
  cases i with
  | ofNat n =>
    obtain ⟨c, cs, shape, digit⟩ := head_decimal n
    have unsigned : (decimal n ++ rest).head? ≠ some '-' := by
      rw [shape]
      rintro ⟨⟩
      exact absurd digit (by decide)
    simp only [numeral?, decimalInt, unsigned, decide_false, if_false,
      wholeDigits?_decimal n ends, fraction?_of_ends ends, exponent?_of_ends ends, Numeral.ofInt,
      Option.bind_eq_bind, Option.bind_some, Option.pure_def]
  | negSucc n =>
    unfold numeral?
    simp [decimalInt, wholeDigits?_decimal _ ends, fraction?_of_ends ends, exponent?_of_ends ends,
      Numeral.ofInt]

def Fits64 (i : Int) : Prop := isSigned64 i = true ∨ isUnsigned64 i = true

theorem integer?_ofInt {i : Int} (fits : Fits64 i) : (Numeral.ofInt i).integer? = some i := by
  simp only [Fits64, isSigned64, isUnsigned64, Bool.and_eq_true, decide_eq_true_eq] at fits
  have half : bitValues 63 < bitValues 64 := by decide
  cases i with
  | ofNat n =>
    have small : n < bitValues 64 := by
      rw [Int.ofNat_eq_natCast] at fits
      omega
    simp [Numeral.ofInt, Numeral.integer?, decimalValue_decimal, small]
  | negSucc n =>
    have large : ¬ bitValues 63 < n + 1 := by omega
    simp only [Numeral.ofInt, Numeral.integer?, decimalValue_decimal]
    simp [large, Int.negSucc_eq]

end Numbers

section Values

theorem not_isSpace_of_isDigit {c : Char} (digit : isDigit c = true) : isSpace c = false := by
  cases space : isSpace c with
  | false => rfl
  | true =>
    simp only [isSpace, Bool.or_eq_true, decide_eq_true_eq] at space
    rcases space with ((rfl | rfl) | rfl) | rfl <;> exact absurd digit (by decide)

theorem ends_of_isSpace {cs : List Char} (blank : ∀ c ∈ cs, isSpace c = true) : Ends cs := by
  cases cs with
  | nil => simp [Ends]
  | cons c cs =>
    have space := blank c List.mem_cons_self
    simp only [isSpace, Bool.or_eq_true, decide_eq_true_eq] at space
    rcases space with ((rfl | rfl) | rfl) | rfl <;> exact ends_cons (by decide) cs

theorem skipSpace_newline (depth : Nat) (cs : List Char) :
    skipSpace (newline depth ++ cs) = skipSpace cs := by
  have spaces : ∀ c ∈ newline depth, isSpace c = true := by
    intro c member
    rcases List.mem_cons.1 member with rfl | blank
    · decide
    · rw [List.eq_of_mem_replicate blank]
      decide
  exact List.dropWhile_append_of_pos spaces

theorem skipSpace_cons {c : Char} (dark : isSpace c = false) (cs : List Char) :
    skipSpace (c :: cs) = c :: cs := by
  simp [skipSpace, dark]

theorem value?_skipSpace {cs ds : List Char} (same : skipSpace cs = skipSpace ds) (fuel : Nat) :
    value? fuel cs = value? fuel ds := by
  cases fuel with
  | zero => rfl
  | succ fuel => rw [value?, value?, same]

theorem value?_decimalInt (i : Int) {rest : List Char} (ends : Ends rest) (fuel : Nat) :
    value? (fuel + 1) (decimalInt i ++ rest) = some (.number (.ofInt i), rest) := by
  have start : ∃ c cs, decimalInt i = c :: cs ∧ (isDigit c = true ∨ c = '-') := by
    cases i with
    | ofNat n =>
      obtain ⟨c, cs, shape, digit⟩ := head_decimal n
      exact ⟨c, cs, shape, .inl digit⟩
    | negSucc n => exact ⟨'-', _, rfl, .inr rfl⟩
  have read := numeral?_decimalInt i ends
  obtain ⟨c, cs, shape, start⟩ := start
  rw [shape] at read ⊢
  have dark : isSpace c = false := by
    rcases start with digit | rfl
    · exact not_isSpace_of_isDigit digit
    · decide
  rw [List.cons_append] at read ⊢
  rw [value?, skipSpace_cons dark]
  split
  all_goals
    try
      rename_i same
      rw [(List.cons.inj same).1] at start
      exact absurd start (by decide)
  rw [read]
  rfl

theorem value?_bracket {cs left : List Char} (bracket : skipSpace cs = ']' :: left) (fuel : Nat) :
    value? fuel cs = none := by
  cases fuel with
  | zero => rfl
  | succ fuel =>
    rw [value?, bracket]
    have stuck : numeral? (']' :: left) = none := by
      simp [numeral?, wholeDigits?, digits?, isDigit]
    split
    all_goals
      try
        rename_i same
        exact absurd (List.cons.inj same).1 (by decide)
    rw [stuck]
    rfl

theorem items?_bracket {cs left : List Char} (bracket : skipSpace cs = ']' :: left) (fuel : Nat) :
    items? fuel cs = none := by
  cases fuel with
  | zero => rfl
  | succ fuel =>
    rw [items?, value?_bracket bracket]
    rfl

end Values

/-- Values without floats and without integers of more than 64 bits. -/
inductive Plain : Json → Prop where
  | null : Plain .null
  | bool (b : Bool) : Plain (.bool b)
  | int {i : Int} (fits : Fits64 i) : Plain (.int i)
  | string (s : String) : Plain (.string s)
  | array {values : List Json} (each : ∀ v ∈ values, Plain v) : Plain (.array values)
  | object {fields : List (String × Json)} (each : ∀ f ∈ fields, Plain f.2) : Plain (.object fields)

theorem Plain.nat {n : Nat} (fits : n < bitValues 64) : Plain (.nat n) := by
  refine .int (.inr ?_)
  simp only [isUnsigned64, Bool.and_eq_true, decide_eq_true_eq]
  omega

section Collections

variable {α : Type} {write : α → Json}

theorem plain_list {xs : List α} (each : ∀ x ∈ xs, Plain (write x)) :
    Plain (.array (xs.map write)) :=
  .array (List.forall_mem_map.2 each)

theorem plain_map {m : SortedMap String α} (each : ∀ e ∈ m.entries, Plain (write e.2)) :
    Plain (.ofMap write m) :=
  .object (List.forall_mem_map.2 each)

theorem plain_indexMap {m : SortedMap Nat α} (each : ∀ e ∈ m.entries, Plain (write e.2)) :
    Plain (.ofIndexMap write m) :=
  .object (List.forall_mem_map.2 each)

end Collections

def Readable (v : Json) : Prop :=
  ∀ (depth fuel : Nat) (rest : List Char), Ends rest → (prettyChars depth v).length < fuel →
    ∃ w : Written, value? fuel (prettyChars depth v ++ rest) = some (w, rest) ∧ Shows w v

theorem ends_newline (depth : Nat) (rest : List Char) : Ends (newline depth ++ rest) :=
  ends_cons (by decide) _

theorem ends_comma (rest : List Char) : Ends (',' :: rest) := ends_cons (by decide) rest

theorem items?_prettyItems (depth : Nat) (v : Json) (vs : List Json)
    (each : ∀ u ∈ v :: vs, Readable u) (outer fuel : Nat) (rest : List Char)
    (enough : (prettyChars depth v ++ prettyItems depth vs).length + 1 < fuel) :
    ∃ ws : List Written,
      items? fuel (newline depth ++ (prettyChars depth v ++
        (prettyItems depth vs ++ (newline outer ++ ']' :: rest)))) = some (ws, rest) ∧
      List.Forall₂ Shows ws (v :: vs) := by
  induction vs generalizing v fuel with
  | nil =>
    obtain ⟨fuel, rfl⟩ := Nat.exists_eq_add_one.2 (Nat.zero_lt_of_lt enough)
    have room : (prettyChars depth v).length < fuel := by
      rw [List.length_append] at enough
      omega
    obtain ⟨w, read, shown⟩ := each v List.mem_cons_self depth fuel _ (ends_newline outer _) room
    refine ⟨[w], ?_, .cons shown .nil⟩
    rw [prettyItems, List.nil_append, items?, value?_skipSpace (skipSpace_newline depth _), read]
    simp only [Option.bind_eq_bind, Option.bind_some, skipSpace_newline]
    rw [skipSpace_cons (by decide)]
    rfl
  | cons u us ih =>
    obtain ⟨fuel, rfl⟩ := Nat.exists_eq_add_one.2 (Nat.zero_lt_of_lt enough)
    simp only [prettyItems, List.length_append, List.length_cons] at enough
    have room : (prettyChars depth v).length < fuel := by omega
    obtain ⟨w, read, shown⟩ := each v List.mem_cons_self depth fuel _ (ends_comma _) room
    obtain ⟨ws, later, all⟩ := ih u (fun u' member => each u' (List.mem_cons_of_mem _ member)) fuel
      (by simp only [List.length_append]; omega)
    refine ⟨w :: ws, ?_, .cons shown all⟩
    rw [prettyItems, items?, value?_skipSpace (skipSpace_newline depth _)]
    simp only [List.cons_append, List.append_assoc]
    rw [read]
    simp only [Option.bind_eq_bind, Option.bind_some]
    rw [skipSpace_cons (by decide)]
    simp only [later, Option.map_some]

theorem spellsDigits_spelling (s : String) : Key.SpellsDigits ⟨spelling s, text? (spelling s)⟩ := by
  intro name text digits
  obtain rfl : s = name := Option.some.inj ((text?_spelling s).symm.trans text)
  exact spelling_of_isDigit digits

theorem fields?_prettyFields (depth : Nat) (k : String) (v : Json) (fs : List (String × Json))
    (each : ∀ f ∈ (k, v) :: fs, Readable f.2) (outer fuel : Nat) (rest : List Char)
    (enough : (prettyChars depth v ++ prettyFields depth fs).length + 1 < fuel) :
    ∃ ws : List (List Char × Written),
      fields? fuel (newline depth ++ (quoted k ++ ':' :: ' ' :: (prettyChars depth v ++
        (prettyFields depth fs ++ (newline outer ++ '\x7d' :: rest))))) = some (ws, rest) ∧
      List.Forall₂ (fun g f => g.1.SpellsDigits ∧ Named Shows g f)
        (ws.map fun (k, v) => (⟨k, text? k⟩, v)) ((k, v) :: fs) := by
  have blank (cs : List Char) : skipSpace (' ' :: cs) = skipSpace cs := by simp [skipSpace, isSpace]
  induction fs generalizing k v fuel with
  | nil =>
    obtain ⟨fuel, rfl⟩ := Nat.exists_eq_add_one.2 (Nat.zero_lt_of_lt enough)
    have room : (prettyChars depth v).length < fuel := by
      rw [List.length_append] at enough
      omega
    obtain ⟨w, read, shown⟩ := each (k, v) List.mem_cons_self depth fuel _ (ends_newline outer _) room
    have key := spellsDigits_spelling k
    refine ⟨[(spelling k, w)], ?_, .cons ⟨key, .intro (text?_spelling k) shown⟩ .nil⟩
    rw [fields?, skipSpace_newline, quoted_eq, List.cons_append, skipSpace_cons (by decide)]
    simp only [List.append_assoc, List.cons_append, List.nil_append, stringSpelling?_spelling,
      Option.bind_eq_bind, Option.bind_some]
    rw [skipSpace_cons (by decide)]
    simp only [prettyFields, List.nil_append]
    rw [value?_skipSpace (blank _), read]
    simp only [Option.bind_some, skipSpace_newline]
    rw [skipSpace_cons (by decide)]
    rfl
  | cons f fs ih =>
    obtain ⟨l, u⟩ := f
    obtain ⟨fuel, rfl⟩ := Nat.exists_eq_add_one.2 (Nat.zero_lt_of_lt enough)
    simp only [prettyFields, List.length_append, List.length_cons] at enough
    have room : (prettyChars depth v).length < fuel := by omega
    obtain ⟨w, read, shown⟩ := each (k, v) List.mem_cons_self depth fuel _ (ends_comma _)
      room
    obtain ⟨ws, later, all⟩ := ih l u (fun f member => each f (List.mem_cons_of_mem _ member)) fuel
      (by simp only [List.length_append]; omega)
    have key := spellsDigits_spelling k
    refine ⟨(spelling k, w) :: ws, ?_, .cons ⟨key, .intro (text?_spelling k) shown⟩ all⟩
    rw [fields?, skipSpace_newline, quoted_eq, List.cons_append, skipSpace_cons (by decide)]
    simp only [List.append_assoc, List.cons_append, List.nil_append, stringSpelling?_spelling,
      Option.bind_eq_bind, Option.bind_some]
    rw [skipSpace_cons (by decide)]
    simp only [prettyFields, List.cons_append, List.append_assoc]
    rw [value?_skipSpace (blank _), read]
    simp only [Option.bind_some]
    rw [skipSpace_cons (by decide)]
    simp only [later, Option.map_some]

theorem layer_number {i : Int} (fits : Fits64 i) :
    layer (Written.number (.ofInt i)) = .integer i := by
  simp only [layer, integer?_ofInt fits, Option.elim_some]

theorem layer_string (s : String) : layer (Written.string (spelling s)) = .string s := by
  simp only [layer, text?_spelling, Option.elim_some]

theorem Plain.readable {v : Json} (plain : Plain v) : Readable v := by
  induction plain with
  | null =>
    intro depth fuel rest _ enough
    obtain ⟨fuel, rfl⟩ := Nat.exists_eq_add_one.2 (Nat.zero_lt_of_lt enough)
    exact ⟨.null, rfl, .null rfl⟩
  | bool b =>
    intro depth fuel rest _ enough
    obtain ⟨fuel, rfl⟩ := Nat.exists_eq_add_one.2 (Nat.zero_lt_of_lt enough)
    cases b with
    | true => exact ⟨.bool true, rfl, .bool rfl⟩
    | false => exact ⟨.bool false, rfl, .bool rfl⟩
  | @int i fits =>
    intro depth fuel rest ends enough
    obtain ⟨fuel, rfl⟩ := Nat.exists_eq_add_one.2 (Nat.zero_lt_of_lt enough)
    exact ⟨_, value?_decimalInt i ends fuel, .int (layer_number fits)⟩
  | string s =>
    intro depth fuel rest _ enough
    obtain ⟨fuel, rfl⟩ := Nat.exists_eq_add_one.2 (Nat.zero_lt_of_lt enough)
    refine ⟨.string (spelling s), ?_, .string (layer_string s)⟩
    have text : prettyChars depth (.string s) = '"' :: (spelling s ++ ['"']) := rfl
    rw [text, List.cons_append, value?, skipSpace_cons (by decide)]
    simp only [List.append_assoc, List.cons_append, List.nil_append, stringSpelling?_spelling]
    rfl
  | @array values each ih =>
    intro depth fuel rest _ enough
    obtain ⟨fuel, rfl⟩ := Nat.exists_eq_add_one.2 (Nat.zero_lt_of_lt enough)
    cases values with
    | nil => exact ⟨.array [], rfl, .array rfl .nil⟩
    | cons v vs =>
      rw [prettyChars] at enough ⊢
      have room : (prettyChars (depth + 1) v ++ prettyItems (depth + 1) vs).length + 1 < fuel := by
        simp only [List.length_append, List.length_cons, newline] at enough ⊢
        omega
      obtain ⟨ws, read, all⟩ := items?_prettyItems (depth + 1) v vs ih depth fuel rest room
      refine ⟨.array ws, ?_, .array rfl all⟩
      simp only [List.cons_append, List.append_assoc, List.nil_append]
      rw [value?, skipSpace_cons (by decide)]
      simp only [read, Option.map_some]
      split
      · rename_i closed
        rw [items?_bracket closed] at read
        cases read
      · rfl
  | @object fields each ih =>
    intro depth fuel rest _ enough
    obtain ⟨fuel, rfl⟩ := Nat.exists_eq_add_one.2 (Nat.zero_lt_of_lt enough)
    cases fields with
    | nil => exact ⟨.object [], rfl, .object rfl (List.forall_mem_nil _) .nil⟩
    | cons f fs =>
      obtain ⟨k, v⟩ := f
      rw [prettyChars] at enough ⊢
      have room : (prettyChars (depth + 1) v ++ prettyFields (depth + 1) fs).length + 1 < fuel := by
        simp only [List.length_append, List.length_cons, newline] at enough ⊢
        omega
      obtain ⟨ws, read, all⟩ := fields?_prettyFields (depth + 1) k v fs ih depth fuel rest room
      have ⟨spelled, each⟩ := (List.forall₂_and_left _ _).1 all
      refine ⟨.object ws, ?_, .object rfl spelled each⟩
      simp only [List.cons_append, List.append_assoc, List.nil_append]
      rw [value?, skipSpace_cons (by decide)]
      simp only [read, Option.map_some]
      rw [skipSpace_newline, quoted_eq, List.cons_append, skipSpace_cons (by decide)]
      rfl

theorem Written.ofText?_prettyChars {v : Json} (plain : Plain v) {tail : List Char}
    (blank : ∀ c ∈ tail, isSpace c = true) :
    ∃ w, Written.ofText? (prettyChars 0 v ++ tail) = some w ∧ Shows w v := by
  obtain ⟨w, read, shown⟩ := plain.readable 0 (2 * (prettyChars 0 v ++ tail).length + 2) tail
    (ends_of_isSpace blank) (by simp only [List.length_append]; omega)
  refine ⟨w, ?_, shown⟩
  have nothing : skipSpace tail = [] := List.dropWhile_eq_nil_iff.2 blank
  rw [Written.ofText?, read, Option.bind_eq_bind, Option.bind_some]
  simp only [nothing, List.isEmpty_nil, if_true]

theorem Written.ofText?_pretty {v : Json} (plain : Plain v) :
    ∃ w, Written.ofText? v.pretty.toList = some w ∧ Shows w v := by
  simpa [pretty] using Written.ofText?_prettyChars plain (List.forall_mem_nil _)

theorem Written.ofText?_pretty_newline {v : Json} (plain : Plain v) :
    ∃ w, Written.ofText? (v.pretty ++ "\n").toList = some w ∧ Shows w v := by
  have text : (v.pretty ++ "\n").toList = prettyChars 0 v ++ ['\n'] := by
    simp [pretty]
  rw [text]
  exact Written.ofText?_prettyChars plain (by simp [isSpace])

end ThreatModel.Json
