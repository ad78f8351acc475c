import ThreatModel.Json.Printer

namespace ThreatModel.Json

open Text

def spelling (s : String) : List Char := s.toList.flatMap escapeChar

theorem quoted_eq (s : String) : quoted s = '"' :: (spelling s ++ ['"']) := rfl

inductive Escaped (c : Char) : List Char → Prop where
  | short (e : Char) (letter : e ≠ 'u') (known : shortEscape? e = some c) : Escaped c ['\\', e]
  | code (x y : Char) (value : hex4? '0' '0' x y = some c.toNat) (low : c.toNat < 0x20) :
      Escaped c ['\\', 'u', '0', '0', x, y]
  | plain (quote : c ≠ '"') (slash : c ≠ '\\') (high : 0x20 ≤ c.toNat) : Escaped c [c]

theorem hex4?_hexDigit {n : Nat} (low : n < 0x20) :
    hex4? '0' '0' (hexDigit (n / 16)) (hexDigit (n % 16)) = some n := by
  have cases : ∀ m < 0x20, hex4? '0' '0' (hexDigit (m / 16)) (hexDigit (m % 16)) = some m := by
    decide
  exact cases n low

theorem escaped (c : Char) : Escaped c (escapeChar c) := by
  unfold escapeChar
  -- the seven letters first, in the order of the printer
  iterate 7
    split
    · subst c
      exact .short _ (by decide) rfl
  split
  · rename_i low
    exact .code _ _ (hex4?_hexDigit low) low
  · exact .plain ‹_› ‹_› (by omega)

theorem escapeChar_of_isDigit {c : Char} (digit : isDigit c = true) : escapeChar c = [c] := by
  have high : ¬ c.toNat < 0x20 := by
    have least : '0'.toNat ≤ c.toNat := by
      simp only [isDigit, Bool.and_eq_true, decide_eq_true_eq] at digit
      exact digit.1
    simp only [Char.reduceToNat] at least
    omega
  unfold escapeChar
  iterate 7
    rw [if_neg (by rintro rfl; exact absurd digit (by decide))]
  rw [if_neg high]

theorem spelling_of_isDigit {s : String} (digits : ∀ c ∈ s.toList, isDigit c = true) :
    spelling s = s.toList := by
  have plain : s.toList.map escapeChar = s.toList.map fun c => [c] :=
    List.map_congr_left fun c member => escapeChar_of_isDigit (digits c member)
  rw [spelling, List.flatMap_def, plain, ← List.flatMap_def, List.flatMap_singleton']

theorem stringSpelling?_of_escaped {c : Char} {cs : List Char} (shape : Escaped c cs)
    (rest : List Char) :
    stringSpelling? (cs ++ rest) = (stringSpelling? rest).map fun (s, left) => (cs ++ s, left) := by
  cases shape with
  | short e letter known =>
    have isEscape : (shortEscape? e).isSome = true := by rw [known]; rfl
    simp only [List.cons_append, List.nil_append]
    rw [stringSpelling?, if_pos isEscape]
    exact fun _ _ _ _ _ isU => absurd isU letter
  | code x y value low =>
    have isCode : (hex4? '0' '0' x y).isSome = true := by rw [value]; rfl
    simp only [List.cons_append, List.nil_append]
    rw [stringSpelling?, if_pos isCode]
  | plain quote slash high =>
    have allowed : ¬ (decide (c = '\\') || decide (c.toNat < 0x20)) = true := by
      simpa [slash] using high
    simp only [List.cons_append, List.nil_append]
    rw [stringSpelling?, if_neg allowed]
    all_goals simp_all

theorem stringSpelling?_spelling (s : String) (rest : List Char) :
    stringSpelling? (spelling s ++ '"' :: rest) = some (spelling s, rest) := by
  unfold spelling
  induction s.toList with
  | nil => simp [stringSpelling?]
  | cons c cs ih =>
    rw [List.flatMap_cons, List.append_assoc, stringSpelling?_of_escaped (escaped c), ih]
    rfl

theorem unescape?_of_escaped {c : Char} {cs : List Char} (shape : Escaped c cs) (rest : List Char) :
    unescape? (cs ++ rest) = (unescape? rest).map (c :: ·) := by
  cases shape with
  | short e letter known =>
    simp only [List.cons_append, List.nil_append]
    rw [unescape?, known]
    · rfl
    · exact fun _ _ _ _ _ isU => absurd isU letter
  | code x y value low =>
    simp only [List.cons_append, List.nil_append]
    rw [unescape?, value]
    have apart : ¬ (0xd800 ≤ c.toNat ∧ c.toNat < 0xdc00) := by omega
    have apart' : ¬ (0xdc00 ≤ c.toNat ∧ c.toNat < 0xe000) := by omega
    simp [apart, apart', Char.ofNat_toNat]
  | plain quote slash high =>
    simp only [List.cons_append, List.nil_append]
    rw [unescape?]
    all_goals simp_all

@[simp] theorem text?_spelling (s : String) : text? (spelling s) = some s := by
  have read : unescape? (s.toList.flatMap escapeChar) = some s.toList := by
    induction s.toList with
    | nil => rfl
    | cons c cs ih =>
      rw [List.flatMap_cons, unescape?_of_escaped (escaped c), ih]
      rfl
  rw [text?, spelling, read]
  simp

end ThreatModel.Json
