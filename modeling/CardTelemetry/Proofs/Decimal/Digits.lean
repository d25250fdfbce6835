import CardTelemetry.Proofs.Binary64.Rounding
import CardTelemetry.Proofs.Decimal.Layout

/-!
# Digits and powers of ten

How many digits a number has says between which powers of ten it is, and its last digit is what it
leaves when divided by ten. So the place of the first digit of a decimal is known from its size, and
where a layout ends in a zero or has an exponent's mark is known from the decimal.
-/

namespace CardTelemetry.Decimal

open Text (decimal)

section Digits

variable {n : Nat}

theorem decimal_mul_pow (hn : n ≠ 0) (k : Nat) : decimal (n * 10 ^ k) = decimal n ++ zeros k := by
  induction k with
  | zero => simp [zeros]
  | succ k ih =>
    have hpos : 0 < n * 10 ^ k := by positivity
    have hshift : n * 10 ^ (k + 1) = 10 * (n * 10 ^ k) + 0 := by ring
    have hzeros : zeros (k + 1) = zeros k ++ decimal 0 := List.replicate_succ'
    rw [hshift, decimal, ← Nat.toDigits_append_toDigits (by decide) hpos (by decide), hzeros,
      ← List.append_assoc]
    exact congrArg (· ++ decimal 0) ih

theorem getLast?_decimal (n : Nat) : (decimal n).getLast? = some (Nat.digitChar (n % 10)) := by
  have hlast : Nat.toDigits 10 (n % 10) = [Nat.digitChar (n % 10)] :=
    Nat.toDigits_of_lt_base (Nat.mod_lt n (by decide))
  by_cases hn : n < 10
  · rw [Nat.mod_eq_of_lt hn] at hlast ⊢
    rw [decimal, hlast]
    rfl
  · have hsplit := Nat.toDigits_append_toDigits (b := 10) (n := n / 10) (d := n % 10) (by decide)
      (by omega) (Nat.mod_lt n (by decide))
    rw [Nat.div_add_mod, hlast] at hsplit
    rw [decimal, ← hsplit, List.getLast?_append]
    rfl

theorem lt_pow_length (n : Nat) : n < 10 ^ (decimal n).length :=
  (Nat.length_toDigits_le_iff (by decide) (List.length_pos_iff.mpr Nat.toDigits_ne_nil)).mp
    (Nat.le_refl _)

theorem pow_length_le (hn : n ≠ 0) : 10 ^ ((decimal n).length - 1) ≤ n := by
  by_contra hlt
  have hpos : (decimal n).length - 1 ≠ 0 := by
    intro hzero
    rw [hzero] at hlt
    omega
  have hle : (decimal n).length ≤ (decimal n).length - 1 :=
    (Nat.length_toDigits_le_iff (by decide) (Nat.pos_of_ne_zero hpos)).mpr (by omega)
  omega

end Digits

variable {d : Decimal}

/-- The place of the first digit is the highest power of ten that is not above the number. -/
theorem log_magnitude (hd : d.units ≠ 0) : Int.log 10 d.magnitude = d.leading := by
  have hlength : (decimal d.units).length ≠ 0 :=
    (List.length_pos_iff.mpr Nat.toDigits_ne_nil).ne'
  have hexponent : (0 : ℚ) < 10 ^ d.exponent := by positivity
  have hpos : 0 < d.magnitude := by
    rw [magnitude]
    exact mul_pos (by positivity) hexponent
  have hlow : ((10 : ℕ) : ℚ) ^ d.leading ≤ d.magnitude := by
    have hle : ((10 : ℕ) : ℚ) ^ ((decimal d.units).length - 1) ≤ d.units := by
      exact_mod_cast pow_length_le hd
    rw [leading, magnitude, add_comm, zpow_add₀ (by norm_num), zpow_natCast]
    exact mul_le_mul_of_nonneg_right hle hexponent.le
  have hhigh : d.magnitude < ((10 : ℕ) : ℚ) ^ (d.leading + 1) := by
    have hlt : (d.units : ℚ) < ((10 : ℕ) : ℚ) ^ (decimal d.units).length := by
      exact_mod_cast lt_pow_length d.units
    have hplaces : d.leading + 1 = (decimal d.units).length + d.exponent := by
      rw [leading]
      omega
    rw [hplaces, magnitude, zpow_add₀ (by norm_num), zpow_natCast]
    exact mul_lt_mul_of_pos_right hlt hexponent
  apply le_antisymm
  · have hlt := (Int.lt_zpow_iff_log_lt (by decide) hpos).mp hhigh
    omega
  · exact (Int.zpow_le_iff_le_log (by decide) hpos).mp hlow

/-! ### Ends and marks of a layout -/

theorem getLast?_positional (h : d.exponent < 0) :
    d.positional.getLast? = some (Nat.digitChar (d.units % 10)) := by
  have hdigits := getLast?_decimal d.units
  rw [positional, unsignedPositional, List.getLast?_append]
  simp only [show ¬ 0 ≤ d.exponent by omega, ↓reduceIte]
  split_ifs with hplaces
  · have hne : (decimal d.units).length - (-d.exponent).toNat < (decimal d.units).length := by
      omega
    rw [List.getLast?_append, List.getLast?_cons, List.getLast?_drop, if_neg (by omega), hdigits]
    rfl
  · rw [List.getLast?_cons_cons, List.getLast?_cons, List.getLast?_append, hdigits]
    rfl

/-- No layout of all places ends in a point and a zero if its decimal does not end in a zero. -/
theorem not_zero_suffix_positional (hd : d.units % 10 ≠ 0 ∨ d.exponent = 0) :
    ¬ ['.', '0'] <:+ d.positional := by
  intro hsuffix
  by_cases hexponent : 0 ≤ d.exponent
  · have hpoint : '.' ∈ d.positional := hsuffix.subset List.mem_cons_self
    rw [positional, unsignedPositional] at hpoint
    simp only [hexponent, ↓reduceIte, List.mem_append] at hpoint
    obtain hsign | hdigit | hzero := hpoint
    · unfold sign at hsign
      split at hsign <;> simp at hsign
    · exact absurd (isDigit_of_mem_decimal hdigit) (by decide)
    · exact absurd (isDigit_of_mem_zeros hzero) (by decide)
  · obtain ⟨before, hbefore⟩ := hsuffix
    have hlast := getLast?_positional (by omega : d.exponent < 0)
    rw [← hbefore, List.getLast?_append] at hlast
    have hzero : '0' = Nat.digitChar (d.units % 10) := Option.some.inj hlast
    have hten : d.units % 10 = 0 := by
      have hlt := Nat.mod_lt d.units (by decide : 0 < 10)
      generalize d.units % 10 = r at hlt hzero
      revert hzero
      revert hlt
      revert r
      decide
    omega

theorem not_mem_positional : 'e' ∉ d.positional := by
  intro he
  rcases isMark_of_mem_positional he with hdigit | hpoint | hminus
  · cases hdigit
  · cases hpoint
  · cases hminus

/-- There is an exponent where the first digit is far from the point, and nowhere else. -/
theorem mem_jsonLayout_iff :
    'e' ∈ Binary64.jsonLayout d ↔ d.leading < -5 ∨ 15 < d.leading := by
  unfold Binary64.jsonLayout
  split_ifs with hfar hwhole
  · refine iff_of_true ?_ hfar
    simp [scientific]
  · refine iff_of_false ?_ hfar
    simp [not_mem_positional]
  · exact iff_of_false not_mem_positional hfar

end CardTelemetry.Decimal
