import CardTelemetry.Binary64.Basic
import Mathlib

/-!
# The double nearest to a number

What a finite double stands for is a rational number. A natural number is rounded to the nearest of
all finite doubles, and where two are as near, to the one with the even significand. Numbers that
would round to an infinity are not considered, and no word of 64 bits comes close to one.
-/

namespace CardTelemetry.Binary64

/-- The number that a finite double stands for. -/
def value (x : Binary64) : ℚ := (if x.negative then -1 else 1) * (x.significand * (2 : ℚ) ^ x.scale)

/-- No finite double is nearer to the number, and one as near is passed over for an even
significand only. -/
structure IsNearest (x : Binary64) (n : Nat) : Prop where
  finite : x.isFinite = true
  closest : ∀ y : Binary64, y.isFinite = true → |x.value - n| ≤ |y.value - n|
  even : ∀ y : Binary64, y.isFinite = true → |y.value - n| = |x.value - n| →
    y.value = x.value ∨ x.significand % 2 = 0

/-! ### Quotients -/

section Quotient

variable {n d : Nat}

theorem divideToEven_bounds (n d : Nat) :
    n / d ≤ divideToEven n d ∧ divideToEven n d ≤ n / d + 1 := by
  unfold divideToEven
  dsimp only
  split <;> omega

/-- A quotient is rounded by half the divisor at most, and by all of that to an even one only. -/
theorem divideToEven_error (hd : 0 < d) :
    2 * |(divideToEven n d : ℤ) * d - n| ≤ d ∧
      (2 * |(divideToEven n d : ℤ) * d - n| = d → divideToEven n d % 2 = 0) := by
  have hrest : n % d < d := Nat.mod_lt n hd
  have hn : (n : ℤ) = (n / d : ℕ) * d + (n % d : ℕ) := by
    exact_mod_cast (Nat.div_add_mod' n d).symm
  unfold divideToEven
  dsimp only
  split
  · rename_i h
    have herror : |((n / d : ℕ) : ℤ) * d - n| = (n % d : ℕ) := by
      rw [hn, sub_add_cancel_left, abs_neg, abs_of_nonneg (by positivity)]
    rw [herror]
    omega
  · rename_i h
    have herror : |((n / d + 1 : ℕ) : ℤ) * d - n| = d - (n % d : ℕ) := by
      have hstep : ((n / d + 1 : ℕ) : ℤ) * d - n = d - (n % d : ℕ) := by
        rw [hn]
        push_cast
        ring
      rw [hstep, abs_of_nonneg (by omega)]
    rw [herror]
    omega

/-- The rounded quotient's multiple of the divisor is the nearest of all. -/
theorem divideToEven_nearest (hd : 0 < d) (j : ℤ) :
    |(divideToEven n d : ℤ) * d - n| ≤ |j * d - n| ∧
      (|j * d - n| = |(divideToEven n d : ℤ) * d - n| →
        j = divideToEven n d ∨ divideToEven n d % 2 = 0) := by
  obtain ⟨herror, heven⟩ := divideToEven_error (n := n) hd
  by_cases hj : j = divideToEven n d
  · subst hj
    exact ⟨le_rfl, fun _ => .inl rfl⟩
  · have happart : (d : ℤ) ≤ |(j * d - n) - ((divideToEven n d : ℤ) * d - n)| := by
      have hone : 1 ≤ |j - divideToEven n d| := Int.one_le_abs (sub_ne_zero.mpr hj)
      have hstep : (j * d - n) - ((divideToEven n d : ℤ) * d - n) = (j - divideToEven n d) * d := by
        ring
      rw [hstep, abs_mul, Nat.abs_cast]
      exact le_mul_of_one_le_left (by positivity) hone
    have htriangle := abs_sub (j * d - n) ((divideToEven n d : ℤ) * d - n)
    constructor
    · omega
    · intro heq
      exact .inr (heven (by omega))

end Quotient

/-! ### Bits -/

/-- The fields of a positive double. -/
theorem fields_eq {e f : Nat} (he : e < 2048) (hf : f < 2 ^ 52) :
    (⟨UInt64.ofNat (e * 2 ^ 52 + f)⟩ : Binary64).exponentField = e ∧
      (⟨UInt64.ofNat (e * 2 ^ 52 + f)⟩ : Binary64).fractionField = f ∧
      (⟨UInt64.ofNat (e * 2 ^ 52 + f)⟩ : Binary64).negative = false := by
  have hbits : (UInt64.ofNat (e * 2 ^ 52 + f)).toNat = e * 2 ^ 52 + f :=
    UInt64.toNat_ofNat_of_lt' (by show _ < 2 ^ 64; omega)
  simp only [exponentField, fractionField, negative, hbits, Nat.pow_eq, decide_eq_false_iff_not]
  omega

/-- A positive double with the leading bit of its significand left out. -/
theorem normal_eq {e f : Nat} (he : e < 2047) (hpos : 0 < e) (hf : f < 2 ^ 52) :
    (⟨UInt64.ofNat (e * 2 ^ 52 + f)⟩ : Binary64).isFinite = true ∧
      (⟨UInt64.ofNat (e * 2 ^ 52 + f)⟩ : Binary64).significand = 2 ^ 52 + f ∧
      (⟨UInt64.ofNat (e * 2 ^ 52 + f)⟩ : Binary64).value =
        (2 ^ 52 + f : ℕ) * (2 : ℚ) ^ ((e : ℤ) - 1075) := by
  obtain ⟨hexponent, hfraction, hsign⟩ := fields_eq (by omega : e < 2048) hf
  have hsignificand : (⟨UInt64.ofNat (e * 2 ^ 52 + f)⟩ : Binary64).significand = 2 ^ 52 + f := by
    rw [significand, hexponent, hfraction, if_neg (by omega)]
    rfl
  refine ⟨?_, hsignificand, ?_⟩
  · rw [isFinite, hexponent, bne_iff_ne]
    omega
  · have hscale : max e 1 = e := by omega
    rw [value, hsign, hsignificand, scale, hexponent, hscale]
    simp

theorem significand_lt (x : Binary64) : x.significand < 2 ^ 53 := by
  have hfraction : x.fractionField < 2 ^ 52 := Nat.mod_lt _ (by decide)
  unfold significand
  simp only [Nat.pow_eq]
  split <;> omega

/-- A double is a multiple of a power of two, or smaller than the doubles that are spaced by it. -/
theorem multiple_or_small (x : Binary64) (e : ℤ) :
    (∃ j : ℤ, x.value = j * (2 : ℚ) ^ e) ∨ |x.value| < 2 ^ 52 * (2 : ℚ) ^ e := by
  by_cases he : e ≤ x.scale
  · refine .inl ⟨(if x.negative then -1 else 1) * (x.significand * 2 ^ (x.scale - e).toNat), ?_⟩
    have hscale : (2 : ℚ) ^ x.scale = 2 ^ (x.scale - e).toNat * (2 : ℚ) ^ e := by
      rw [← zpow_natCast, ← zpow_add₀ two_ne_zero]
      congr 1
      omega
    rw [value, hscale]
    push_cast
    ring
  · refine .inr ?_
    have hsign : |(if x.negative then -1 else 1 : ℚ)| = 1 := by
      split <;> norm_num
    have hsignificand : (x.significand : ℚ) < 2 ^ 53 := by
      exact_mod_cast significand_lt x
    have hscale : (2 : ℚ) ^ x.scale ≤ (2 : ℚ) ^ (e - 1) :=
      zpow_le_zpow_right₀ (by norm_num) (by omega)
    rw [value, abs_mul, hsign, one_mul, abs_of_nonneg (by positivity)]
    calc (x.significand : ℚ) * 2 ^ x.scale
        < 2 ^ 53 * 2 ^ x.scale := by
          exact mul_lt_mul_of_pos_right hsignificand (by positivity)
      _ ≤ 2 ^ 53 * 2 ^ (e - 1) := by
          exact mul_le_mul_of_nonneg_left hscale (by positivity)
      _ = 2 ^ 52 * 2 ^ e := by
          rw [zpow_sub_one₀ two_ne_zero]
          ring

/-! ### Natural numbers -/

section OfNat

variable {n : Nat}

/-- The significand before it is carried over, a number of 53 bits or the next after these. -/
def rounded (n : Nat) : Nat := divideToEven (n * 2 ^ (52 - n.log2)) (2 ^ (n.log2 - 52))

theorem rounded_bounds (hn : n ≠ 0) : 2 ^ 52 ≤ rounded n ∧ rounded n ≤ 2 ^ 53 := by
  have hlow : 2 ^ n.log2 ≤ n := Nat.log2_self_le hn
  have hhigh : n < 2 ^ (n.log2 + 1) := Nat.lt_log2_self
  have hsplit : 2 ^ 52 * 2 ^ (n.log2 - 52) = 2 ^ n.log2 * 2 ^ (52 - n.log2) := by
    rw [← Nat.pow_add, ← Nat.pow_add]
    congr 1
    omega
  have hpos : 0 < 2 ^ (n.log2 - 52) := Nat.two_pow_pos _
  obtain ⟨hfloor, hceil⟩ :=
    divideToEven_bounds (n * 2 ^ (52 - n.log2)) (2 ^ (n.log2 - 52))
  have hquotient : 2 ^ 52 ≤ n * 2 ^ (52 - n.log2) / 2 ^ (n.log2 - 52) := by
    rw [Nat.le_div_iff_mul_le hpos, hsplit]
    exact Nat.mul_le_mul_right _ hlow
  have hquotient' : n * 2 ^ (52 - n.log2) / 2 ^ (n.log2 - 52) < 2 ^ 53 := by
    rw [Nat.div_lt_iff_lt_mul hpos]
    calc n * 2 ^ (52 - n.log2) < 2 ^ (n.log2 + 1) * 2 ^ (52 - n.log2) :=
          Nat.mul_lt_mul_of_pos_right hhigh (Nat.two_pow_pos _)
      _ = 2 ^ 53 * 2 ^ (n.log2 - 52) := by rw [Nat.pow_succ, Nat.mul_right_comm, ← hsplit]; ring
  exact ⟨hquotient.trans hfloor, hceil.trans hquotient'⟩

theorem ofNat_eq (hn : n ≠ 0) :
    ofNat n = ⟨UInt64.ofNat ((n.log2 + 1022) * 2 ^ 52 + rounded n)⟩ := by
  rw [ofNat, if_neg hn, rounded]
  rfl

/-- What a number is rounded to stands for a multiple of the spacing at its highest bit. -/
theorem ofNat_fields (hn : n ≠ 0) (hlimit : n.log2 < 1023) :
    (ofNat n).isFinite = true ∧ (ofNat n).significand % 2 = rounded n % 2 ∧
      (ofNat n).value = rounded n * (2 : ℚ) ^ ((n.log2 : ℤ) - 52) := by
  obtain ⟨hlow, hhigh⟩ := rounded_bounds hn
  rw [ofNat_eq hn]
  by_cases hcarry : rounded n = 2 ^ 53
  · -- the significand is carried into the exponent
    have hbits : (n.log2 + 1022) * 2 ^ 52 + rounded n = (n.log2 + 1024) * 2 ^ 52 + 0 := by
      omega
    obtain ⟨hfinite, hsignificand, hvalue⟩ :=
      normal_eq (by omega : n.log2 + 1024 < 2047) (by omega) (by decide : 0 < 2 ^ 52)
    rw [hbits, hsignificand, hvalue, hcarry]
    refine ⟨hfinite, by decide, ?_⟩
    have hscale : ((n.log2 + 1024 : ℕ) : ℤ) - 1075 = ((n.log2 : ℤ) - 52) + 1 := by
      push_cast
      ring
    rw [hscale, zpow_add_one₀ two_ne_zero]
    push_cast
    ring
  · have hbits : (n.log2 + 1022) * 2 ^ 52 + rounded n =
        (n.log2 + 1023) * 2 ^ 52 + (rounded n - 2 ^ 52) := by
      omega
    obtain ⟨hfinite, hsignificand, hvalue⟩ :=
      normal_eq (by omega : n.log2 + 1023 < 2047) (by omega)
        (by omega : rounded n - 2 ^ 52 < 2 ^ 52)
    rw [hbits, hsignificand, hvalue, Nat.add_sub_cancel' hlow]
    refine ⟨hfinite, rfl, ?_⟩
    have hscale : ((n.log2 + 1023 : ℕ) : ℤ) - 1075 = (n.log2 : ℤ) - 52 := by
      push_cast
      ring
    rw [hscale]

/-- Distances of a number from multiples of the spacing, as whole numbers. -/
theorem distance_eq (n : Nat) (j : ℤ) :
    |j * (2 : ℚ) ^ ((n.log2 : ℤ) - 52) - n| * 2 ^ (52 - n.log2) =
      (|j * (2 ^ (n.log2 - 52) : ℕ) - (n * 2 ^ (52 - n.log2) : ℕ)| : ℤ) := by
  have hspacing : (2 : ℚ) ^ ((n.log2 : ℤ) - 52) * 2 ^ (52 - n.log2) = 2 ^ (n.log2 - 52) := by
    rw [← zpow_natCast, ← zpow_natCast, ← zpow_add₀ two_ne_zero]
    congr 1
    omega
  have hpos : (0 : ℚ) < 2 ^ (52 - n.log2) := by positivity
  calc |j * (2 : ℚ) ^ ((n.log2 : ℤ) - 52) - n| * 2 ^ (52 - n.log2)
      = |(j * (2 : ℚ) ^ ((n.log2 : ℤ) - 52) - n) * 2 ^ (52 - n.log2)| := by
        rw [abs_mul, abs_of_pos hpos]
    _ = |(j : ℚ) * 2 ^ (n.log2 - 52) - n * 2 ^ (52 - n.log2)| := by
        rw [sub_mul, mul_assoc, hspacing]
    _ = (|j * (2 ^ (n.log2 - 52) : ℕ) - (n * 2 ^ (52 - n.log2) : ℕ)| : ℤ) := by
        rw [Int.cast_abs]
        push_cast
        rfl

theorem rounded_nearest (n : Nat) (j : ℤ) :
    |rounded n * (2 : ℚ) ^ ((n.log2 : ℤ) - 52) - n| ≤ |j * (2 : ℚ) ^ ((n.log2 : ℤ) - 52) - n| ∧
      (|j * (2 : ℚ) ^ ((n.log2 : ℤ) - 52) - n| =
          |rounded n * (2 : ℚ) ^ ((n.log2 : ℤ) - 52) - n| →
        j = rounded n ∨ rounded n % 2 = 0) := by
  have hpos : (0 : ℚ) < 2 ^ (52 - n.log2) := by positivity
  have hrounded := distance_eq n (rounded n)
  have hother := distance_eq n j
  rw [Int.cast_natCast] at hrounded
  obtain ⟨hclosest, heven⟩ :=
    divideToEven_nearest (n := n * 2 ^ (52 - n.log2)) (Nat.two_pow_pos (n.log2 - 52)) j
  constructor
  · apply le_of_mul_le_mul_right _ hpos
    rw [hrounded, hother]
    exact_mod_cast hclosest
  · intro heq
    apply heven
    rw [heq, hrounded] at hother
    exact_mod_cast hother.symm

theorem value_zero : zero.value = 0 := by
  have hsignificand : zero.significand = 0 := by decide
  rw [value, hsignificand]
  simp

theorem value_one : one.value = 1 := by
  have hfields : one.significand = 2 ^ 52 ∧ one.scale = -52 ∧ one.negative = false := by decide
  rw [value, hfields.1, hfields.2.1, hfields.2.2]
  norm_num

theorem ofBool_decide (p : Prop) [Decidable p] : ofBool p = if p then one else zero := by
  simp [ofBool]

/-- **A number is rounded to the nearest double**, and halfway to the one with the even
significand. -/
theorem isNearest_ofNat (hlimit : n.log2 < 1023) : (ofNat n).IsNearest n := by
  by_cases hn : n = 0
  · subst hn
    have hzero : (ofNat 0).value = 0 := value_zero
    refine ⟨by decide, ?_, ?_⟩
    · intro y _
      rw [hzero]
      simp
    · intro y _ heq
      rw [hzero] at heq ⊢
      simpa using Or.inl heq
  obtain ⟨hfinite, heven, hvalue⟩ := ofNat_fields hn hlimit
  have hlow : (2 : ℚ) ^ 52 * 2 ^ ((n.log2 : ℤ) - 52) ≤ n := by
    have hpower : (2 : ℚ) ^ 52 * 2 ^ ((n.log2 : ℤ) - 52) = (2 ^ n.log2 : ℕ) := by
      rw [← zpow_natCast, ← zpow_add₀ two_ne_zero, Nat.cast_pow, ← zpow_natCast]
      congr 1
      push_cast
      ring
    rw [hpower]
    exact_mod_cast Nat.log2_self_le hn
  -- a double below the number's highest bit is farther away than that bit alone
  have hsmall (y : Binary64) (hy : |y.value| < 2 ^ 52 * (2 : ℚ) ^ ((n.log2 : ℤ) - 52)) :
      |(ofNat n).value - n| < |y.value - n| := by
    have hbit := (rounded_nearest n (2 ^ 52)).1
    have hbelow := (abs_lt.mp hy).2
    rw [hvalue]
    rw [Int.cast_pow, Int.cast_ofNat] at hbit
    rw [abs_of_nonpos (by linarith : (2 : ℚ) ^ 52 * 2 ^ ((n.log2 : ℤ) - 52) - n ≤ 0)] at hbit
    rw [abs_of_neg (by linarith : y.value - n < 0)]
    linarith
  refine ⟨hfinite, ?_, ?_⟩
  · intro y _
    obtain ⟨j, hj⟩ | hy := y.multiple_or_small ((n.log2 : ℤ) - 52)
    · rw [hj, hvalue]
      exact (rounded_nearest n j).1
    · exact (hsmall y hy).le
  · intro y _ heq
    obtain ⟨j, hj⟩ | hy := y.multiple_or_small ((n.log2 : ℤ) - 52)
    · rw [hj, hvalue] at heq
      rw [hj, hvalue, heven]
      obtain hsame | hround := (rounded_nearest n j).2 heq
      · exact .inl (by rw [hsame, Int.cast_natCast])
      · exact .inr hround
    · exact absurd heq (hsmall y hy).ne'

end OfNat

theorem isNearest_ofWord (n : UInt64) : (ofWord n).IsNearest n.toNat := by
  apply isNearest_ofNat
  have hword : n.toNat < 2 ^ 64 := n.toNat_lt
  have hlog : n.toNat.log2 < 64 ∨ n.toNat = 0 := by
    by_cases hzero : n.toNat = 0
    · exact .inr hzero
    · exact .inl ((Nat.log2_lt hzero).mpr hword)
  obtain hlog | hzero := hlog
  · omega
  · rw [hzero]
    decide

end CardTelemetry.Binary64
