import CardTelemetry.Proofs.Binary64.Shortest

/-!
# Ties between shortest decimals

A double can be halfway between two decimals that are both rounded to it and have as few digits as
any that is. If the lower of these is even, ties broken upwards and ties broken to the even digit
come out differently, and for no other double do they. How many doubles are ties is not said.
-/

namespace CardTelemetry.Binary64

variable {x : Binary64} {n : Nat} {e : ℤ}

/-- The double is halfway between two multiples of a power of ten that follow each other, the lower
of which is an even one. Both are rounded to it, and no multiple of the next power is. -/
structure Tied (x : Binary64) (n : Nat) (e : ℤ) : Prop where
  even : n % 2 = 0
  halfway : 2 * |x.value| = (2 * n + 1) * (10 : ℚ) ^ e
  lower : (⟨x.negative, n, e⟩ : Decimal).RoundsTo x
  upper : (⟨x.negative, n + 1, e⟩ : Decimal).RoundsTo x
  coarser : ∀ m, ¬ (⟨x.negative, m, e + 1⟩ : Decimal).RoundsTo x

theorem Tied.significand_ne_zero (h : Tied x n e) : x.significand ≠ 0 := by
  intro hzero
  have hpos : 0 < (2 * n + 1) * (10 : ℚ) ^ e := by positivity
  rw [← h.halfway, value_eq_zero_iff.mpr hzero] at hpos
  simp at hpos

theorem ten_zpow_of_le {d : ℤ} (h : d ≤ e) : (10 : ℚ) ^ e = 10 ^ (e - d).toNat * 10 ^ d := by
  rw [← zpow_natCast, ← zpow_add₀ (by norm_num), Int.toNat_of_nonneg (by omega),
    Int.sub_add_cancel]

/-- A double is halfway between multiples of its unit, and of no smaller power of ten. -/
theorem exists_halfway (h : 2 * |x.value| = (2 * n + 1) * (10 : ℚ) ^ e) :
    ∃ k : Nat, e = x.unit + k ∧ 2 * x.interval.value = (2 * n + 1) * 10 ^ k := by
  rw [abs_value, magnitudeAt_place] at h
  by_cases he : x.unit ≤ e
  · refine ⟨(e - x.unit).toNat, by omega, ?_⟩
    rw [ten_zpow_of_le he, ← mul_assoc, ← mul_assoc] at h
    exact_mod_cast mul_right_cancel₀ (zpow_ne_zero _ (by norm_num)) h
  · rw [ten_zpow_of_le (Int.le_of_not_le he), ← mul_assoc, ← mul_assoc] at h
    have hparity : 2 * x.interval.value * 10 ^ (x.unit - e).toNat = 2 * n + 1 := by
      exact_mod_cast mul_right_cancel₀ (zpow_ne_zero _ (by norm_num)) h
    -- twice a number is not an odd one
    rw [Nat.mul_assoc] at hparity
    omega

/-- Of a tie both decimals are shortest, the one where ties are broken to the even digit and the
other where they are broken upwards. -/
theorem Tied.shortest_eq (h : Tied x n e) :
    x.shortest .even = ⟨x.negative, n, e⟩ ∧ x.shortest .up = ⟨x.negative, n + 1, e⟩ := by
  have hx := h.lower.finite
  have hzero := h.significand_ne_zero
  obtain ⟨k, rfl, hhalf⟩ := exists_halfway h.halfway
  have hlower := (roundsTo_iff_holds hx hzero).mp h.lower
  have hupper := (roundsTo_iff_holds hx hzero).mp h.upper
  have hpower : x.interval.power = k := by
    apply Decimal.Interval.power_eq (holds_value hzero) hupper (Nat.succ_ne_zero n)
    intro m hm
    apply h.coarser m
    rw [add_assoc]
    exact (roundsTo_iff_holds hx hzero).mpr hm
  obtain ⟨heven, hup⟩ := Decimal.Interval.nearest_of_halfway h.even hlower hupper hhalf
  simp only [shortest, if_neg hzero, Decimal.Interval.shortest, hpower, heven, hup, true_and]

theorem Tied.magnitudes (h : Tied x n e) :
    (x.shortest .even).magnitude = n * (10 : ℚ) ^ e ∧
      (x.shortest .up).magnitude = (n + 1) * (10 : ℚ) ^ e := by
  obtain ⟨heven, hup⟩ := h.shortest_eq
  rw [heven, hup, Decimal.magnitude, Decimal.magnitude]
  push_cast
  exact ⟨rfl, rfl⟩

/-- Only for a tie does it count which way ties are broken. -/
theorem exists_tied (hx : x.isFinite = true) (h : x.shortest .up ≠ x.shortest .even) :
    ∃ n e, Tied x n e := by
  have hzero : x.significand ≠ 0 := by
    intro hzero
    rw [shortest, shortest, if_pos hzero, if_pos hzero] at h
    exact h rfl
  have hround (tie : Decimal.Tie) := roundsTo_shortest hx tie
  simp only [shortest, if_neg hzero, Decimal.Interval.shortest] at h hround
  obtain hsame | ⟨heven, hnext, hhalf⟩ :=
    Decimal.Interval.nearest_up_or x.interval x.interval.power
  · rw [hsame] at h
    exact absurd rfl h
  · refine ⟨_, _, heven, ?_, hround .even, hnext ▸ hround .up, ?_⟩
    · rw [abs_value, magnitudeAt_place, ← mul_assoc, zpow_add₀ (by norm_num), zpow_natCast,
        mul_comm ((10 : ℚ) ^ x.unit), ← mul_assoc]
      congr 1
      exact_mod_cast hhalf
    · intro m hm
      rw [add_assoc] at hm
      have hholds := (roundsTo_iff_holds hx hzero (k := x.interval.power + 1)).mp hm
      have hne : m ≠ 0 := by
        rintro rfl
        have hlow := (Decimal.Interval.holds_iff.mp hholds).1
        have hpos := low_pos hzero
        omega
      have hle := Decimal.Interval.le_power (holds_value hzero) hholds hne
      omega

theorem magnitude_shortest_ne_iff (hx : x.isFinite = true) :
    (x.shortest .up).magnitude ≠ (x.shortest .even).magnitude ↔ ∃ n e, Tied x n e := by
  constructor
  · intro h
    exact exists_tied hx fun heq => h (congrArg Decimal.magnitude heq)
  · intro h
    obtain ⟨n, e, htied⟩ := h
    obtain ⟨heven, hup⟩ := htied.magnitudes
    have hpower : (10 : ℚ) ^ e ≠ 0 := zpow_ne_zero _ (by norm_num)
    rw [heven, hup, Ne, mul_left_inj' hpower]
    exact (lt_add_one (n : ℚ)).ne'

end CardTelemetry.Binary64
