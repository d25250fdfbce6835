import CardTelemetry.Binary64.Decimal
import CardTelemetry.Proofs.Binary64.Rounding
import CardTelemetry.Proofs.Decimal.Shortest

/-!
# The shortest decimal of a double

The decimal that a finite double is written as lies between the middles to its neighbours, and on
one only where the double's significand is even. So it is rounded to that double and to no other,
whichever way a halfway digit is chosen. That no shorter decimal is does not follow from this.
-/

namespace CardTelemetry

namespace Binary64

variable {x y : Binary64} {tie : Decimal.Tie}

/-! ### The interval of a double -/

theorem significand_eq_zero_iff : x.significand = 0 ↔ x.place = 0 := by
  rw [significand_eq, significandAt]
  split <;> omega

theorem grain_mul (x : Binary64) : (x.grain : ℚ) * (10 : ℚ) ^ x.unit = (2 : ℚ) ^ x.quarter := by
  unfold grain unit
  simp only [Nat.pow_eq]
  split_ifs with h
  · rw [min_eq_right h, zpow_zero, mul_one, Nat.cast_pow, Nat.cast_ofNat, ← zpow_natCast,
      Int.toNat_of_nonneg h]
  · rw [min_eq_left (by omega), show (10 : ℚ) = 5 * 2 by norm_num, mul_zpow, ← mul_assoc,
      Nat.cast_pow, Nat.cast_ofNat, ← zpow_natCast, Int.toNat_of_nonneg (by omega),
      ← zpow_add₀ (by norm_num), neg_add_cancel, zpow_zero, one_mul]

theorem zpow_scale (x : Binary64) : (2 : ℚ) ^ x.scale = 4 * (2 : ℚ) ^ x.quarter := by
  rw [quarter, zpow_sub₀ two_ne_zero]
  norm_num
  ring

/-- The neighbours' numbers in quarters of the spacing. -/
theorem neighbours_eq (hx : x.place ≠ 0) :
    magnitudeAt x.place = 4 * x.significand * (2 : ℚ) ^ x.quarter ∧
      magnitudeAt (x.place + 1) = (4 * x.significand + 4) * (2 : ℚ) ^ x.quarter ∧
      magnitudeAt (x.place - 1) =
        (4 * x.significand - if x.atBinade then 2 else 4) * (2 : ℚ) ^ x.quarter := by
  have hself : magnitudeAt x.place = 4 * x.significand * (2 : ℚ) ^ x.quarter := by
    rw [magnitudeAt, ← significand_eq, ← scale_eq, zpow_scale]
    ring
  have hbelow := magnitudeAt_succ (x.place - 1)
  rw [Nat.sub_add_cancel (by omega), scaleAt_pred, hself] at hbelow
  refine ⟨hself, ?_, ?_⟩
  · rw [magnitudeAt_succ, hself, ← scale_eq, zpow_scale]
    ring
  · rw [← sub_eq_iff_eq_add.mpr hbelow]
    split_ifs with hbinade
    · rw [zpow_sub_one₀ two_ne_zero, zpow_scale]
      ring
    · rw [zpow_scale]
      ring

theorem grain_pos (x : Binary64) : 0 < x.grain := by
  unfold grain
  simp only [Nat.pow_eq]
  split_ifs <;> positivity

theorem low_pos (hx : x.significand ≠ 0) : 0 < x.interval.low :=
  Nat.mul_pos (by split_ifs <;> omega) x.grain_pos

/-- The number of a double in units of its interval. -/
theorem magnitudeAt_place (x : Binary64) :
    magnitudeAt x.place = x.interval.value * (10 : ℚ) ^ x.unit := by
  rw [magnitudeAt, ← significand_eq, ← scale_eq, zpow_scale, ← grain_mul, interval]
  push_cast
  ring

theorem holds_value (hx : x.significand ≠ 0) : x.interval.holds x.interval.value = true := by
  have hgrain := x.grain_pos
  rw [Decimal.Interval.holds_iff, interval]
  dsimp only
  have hlow : (4 * x.significand - if x.atBinade then 1 else 2) * x.grain <
      4 * x.significand * x.grain :=
    Nat.mul_lt_mul_of_pos_right (by split_ifs <;> omega) hgrain
  have hhigh : 4 * x.significand * x.grain < (4 * x.significand + 2) * x.grain :=
    Nat.mul_lt_mul_of_pos_right (by omega) hgrain
  exact ⟨hlow.le, hhigh.le, fun _ => ⟨hlow, hhigh⟩⟩

/-- The bounds of the interval are the middles between the double and its neighbours. -/
theorem bounds_eq (hx : x.significand ≠ 0) :
    magnitudeAt (x.place - 1) + magnitudeAt x.place =
        2 * (x.interval.low * (10 : ℚ) ^ x.unit) ∧
      magnitudeAt x.place + magnitudeAt (x.place + 1) =
        2 * (x.interval.high * (10 : ℚ) ^ x.unit) := by
  have hplace : x.place ≠ 0 := fun h => hx (significand_eq_zero_iff.mpr h)
  obtain ⟨hself, habove, hbelow⟩ := neighbours_eq hplace
  have hfloor : ((4 * x.significand - if x.atBinade then 1 else 2 : ℕ) : ℚ) =
      4 * x.significand - if x.atBinade then 1 else 2 := by
    rw [Nat.cast_sub (by split_ifs <;> omega)]
    split_ifs <;> push_cast <;> rfl
  have hscaled (a : Nat) : ((a * x.grain : ℕ) : ℚ) * 10 ^ x.unit = a * 2 ^ x.quarter := by
    rw [← grain_mul]
    push_cast
    ring
  rw [interval, hscaled, hscaled, hfloor, hself, habove, hbelow]
  constructor
  · split_ifs <;> ring
  · push_cast
    ring

theorem closed_eq_false_iff : x.interval.closed = false ↔ x.place % 2 = 1 := by
  rw [interval, significand_eq, significandAt_mod_two, beq_eq_false_iff_ne]
  omega

/-- The natural numbers in the interval of a double are those around the double's place. -/
theorem holds_iff_around (hx : x.significand ≠ 0) {n : Nat} :
    x.interval.holds n = true ↔ Around x.place (n * (10 : ℚ) ^ x.unit) := by
  have hpos : (0 : ℚ) < 2 * 10 ^ x.unit := by positivity
  have hle {a b : Nat} :
      2 * ((a : ℚ) * 10 ^ x.unit) ≤ 2 * ((b : ℚ) * 10 ^ x.unit) ↔ a ≤ b := by
    rw [mul_left_comm, mul_left_comm (2 : ℚ), mul_le_mul_iff_of_pos_right hpos, Nat.cast_le]
  have hlt {a b : Nat} :
      2 * ((a : ℚ) * 10 ^ x.unit) < 2 * ((b : ℚ) * 10 ^ x.unit) ↔ a < b := by
    rw [mul_left_comm, mul_left_comm (2 : ℚ), mul_lt_mul_iff_of_pos_right hpos, Nat.cast_lt]
  obtain ⟨hlow, hhigh⟩ := bounds_eq hx
  rw [Decimal.Interval.holds_iff, closed_eq_false_iff]
  constructor
  · intro h
    obtain ⟨hl, hh, hopen⟩ := h
    constructor
    · rwa [hlow, hle]
    · rwa [hhigh, hle]
    · rwa [hlow, hhigh, hlt, hlt]
  · intro h
    obtain ⟨hl, hh, hodd⟩ := h
    rw [hlow, hle] at hl
    rw [hhigh, hle] at hh
    rw [hlow, hhigh, hlt, hlt] at hodd
    exact ⟨hl, hh, hodd⟩

/-- A decimal in units of an interval. -/
theorem magnitude_unit (x : Binary64) (negative : Bool) (n k : Nat) :
    Decimal.magnitude ⟨negative, n, x.unit + k⟩ = (n * 10 ^ k : ℕ) * (10 : ℚ) ^ x.unit := by
  rw [Decimal.magnitude, zpow_add₀ (by norm_num), zpow_natCast]
  push_cast
  ring

/-- The decimals in the interval of a double are those that are rounded to it. -/
theorem roundsTo_iff_holds (hx : x.isFinite = true) (hzero : x.significand ≠ 0) {n k : Nat} :
    (⟨x.negative, n, x.unit + k⟩ : Decimal).RoundsTo x ↔ x.interval.holds (n * 10 ^ k) = true := by
  rw [roundsTo_iff_around hx rfl, magnitude_unit, holds_iff_around hzero]

/-- No zero ends the digits, but that of zero itself, which has no exponent. -/
theorem units_mod_ten_shortest (x : Binary64) (tie : Decimal.Tie) :
    (x.shortest tie).units % 10 ≠ 0 ∨ (x.shortest tie).exponent = 0 := by
  unfold shortest
  split_ifs with hzero
  · exact .inr rfl
  · exact .inl (Decimal.Interval.shortest_mod_ten (holds_value hzero) (low_pos hzero))

theorem units_shortest (x : Binary64) (tie : Decimal.Tie) :
    (x.shortest tie).units ≠ 0 ∨ (x.shortest tie).exponent = 0 := by
  obtain hunits | hexponent := x.units_mod_ten_shortest tie
  · left
    intro hzero
    rw [hzero] at hunits
    exact hunits rfl
  · exact .inr hexponent

/-- Only zero is written without any digit but zero. -/
theorem units_shortest_eq_zero_iff (x : Binary64) (tie : Decimal.Tie) :
    (x.shortest tie).units = 0 ↔ x.significand = 0 := by
  unfold shortest
  split_ifs with hzero
  · exact iff_of_true rfl hzero
  · refine iff_of_false ?_ hzero
    intro hunits
    have hlast : x.interval.shortest tie % 10 ≠ 0 :=
      Decimal.Interval.shortest_mod_ten (holds_value hzero) (low_pos hzero)
    rw [show x.interval.shortest tie = 0 from hunits] at hlast
    exact hlast rfl

/-- The shortest decimal is nearest to the double's own place. -/
theorem around_shortest (x : Binary64) (tie : Decimal.Tie) :
    Around x.place (x.shortest tie).magnitude := by
  unfold shortest
  split_ifs with hzero
  · have hplace := significand_eq_zero_iff.mp hzero
    rw [hplace, Decimal.magnitude]
    have hfirst := magnitudeAt_nonneg 1
    constructor <;> simp [magnitudeAt_zero, hfirst]
  · have haround := (holds_iff_around hzero).mp
      (Decimal.Interval.holds_shortest (holds_value hzero) tie)
    rwa [magnitude_unit]

/-- The shortest decimals of doubles are in the order of the doubles. -/
theorem magnitude_shortest_lt (h : x.place < y.place) :
    (x.shortest tie).magnitude < (y.shortest tie).magnitude :=
  (around_shortest x tie).lt (around_shortest y tie) h

theorem negative_shortest (x : Binary64) (tie : Decimal.Tie) :
    (x.shortest tie).negative = x.negative := by
  unfold shortest
  split_ifs <;> rfl

/-- **A double's shortest decimal is rounded to the double.** -/
theorem roundsTo_shortest (hx : x.isFinite = true) (tie : Decimal.Tie) :
    (x.shortest tie).RoundsTo x :=
  roundsTo_of_around hx (negative_shortest x tie).symm (around_shortest x tie)

theorem roundsTo_shortest_iff (hx : x.isFinite = true) (tie : Decimal.Tie) :
    (x.shortest tie).RoundsTo y ↔ y = x := by
  constructor
  · intro hy
    exact hy.unique (roundsTo_shortest hx tie)
  · rintro rfl
    exact roundsTo_shortest hx tie

end Binary64

end CardTelemetry
