import ThreatModel.Text.Decimal

namespace ThreatModel.Text

theorem toNat_digitChar {d : Nat} (small : d < 10) : (digitChar d).toNat = 48 + d := by
  have cases : ∀ e < 10, (digitChar e).toNat = 48 + e := by decide
  exact cases d small

theorem isDigit_digitChar {d : Nat} (small : d < 10) : isDigit (digitChar d) = true := by
  have cases : ∀ e < 10, isDigit (digitChar e) = true := by decide
  exact cases d small

theorem digitValue_digitChar {d : Nat} (small : d < 10) : digitValue (digitChar d) = d := by
  rw [digitValue, toNat_digitChar small]
  omega

theorem decimalValue_concat (ds : List Char) (d : Char) :
    decimalValue (ds ++ [d]) = 10 * decimalValue ds + digitValue d := by
  simp [decimalValue]

theorem isDigit_of_mem_decimal (n : Nat) : ∀ c ∈ decimal n, isDigit c = true := by
  induction n using decimal.induct with
  | case1 n small =>
    rw [decimal, if_pos small]
    simpa using isDigit_digitChar small
  | case2 n large ih =>
    rw [decimal, if_neg large]
    intro c member
    rcases List.mem_append.1 member with front | last
    · exact ih c front
    · rw [List.mem_singleton.1 last]
      exact isDigit_digitChar (Nat.mod_lt _ (by omega))

theorem decimal_ne_nil (n : Nat) : decimal n ≠ [] := by
  rw [decimal]
  split <;> simp

theorem decimalValue_decimal (n : Nat) : decimalValue (decimal n) = n := by
  induction n using decimal.induct with
  | case1 n small =>
    rw [decimal, if_pos small]
    simp [decimalValue, digitValue_digitChar small]
  | case2 n large ih =>
    rw [decimal, if_neg large, decimalValue_concat, ih,
      digitValue_digitChar (Nat.mod_lt _ (by omega))]
    omega

theorem head_decimal_ne_zero {n : Nat} (positive : 0 < n) : (decimal n).head? ≠ some '0' := by
  induction n using decimal.induct with
  | case1 n small =>
    have cases : ∀ e < 10, 0 < e → digitChar e ≠ '0' := by decide
    rw [decimal, if_pos small]
    simpa using cases n small positive
  | case2 n large ih =>
    obtain ⟨first, others, shape⟩ := List.exists_cons_of_ne_nil (decimal_ne_nil (n / 10))
    have front := ih (by omega)
    rw [decimal, if_neg large]
    rw [shape] at front ⊢
    exact front

theorem length_decimal_zero : (decimal 0).length = 1 := by
  rw [decimal, if_pos (by omega), List.length_singleton]

end ThreatModel.Text
