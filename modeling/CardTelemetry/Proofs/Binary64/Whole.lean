import CardTelemetry.Metric.Exposition
import CardTelemetry.Proofs.Binary64.Shortest
import CardTelemetry.Proofs.Decimal.Digits
import CardTelemetry.Proofs.Json.Number

/-!
# Whole numbers as doubles

A word of 64 bits is rounded to a double and then written with the fewest digits, so that what is
shown is a number near the word and not always the word itself. It is a whole number, it is rounded
to the same double, and larger words are not shown as smaller numbers. How far a word and what is
shown for it can be apart is not said, but for the words that a double holds without rounding.
-/

namespace CardTelemetry.Binary64

open Text (decimal digitsValue)

variable {m n : Nat} {x y : Binary64} {tie : Decimal.Tie}

/-! ### Rounding -/

theorem divideToEven_mul (n : Nat) {d : Nat} (hd : 0 < d) : divideToEven (n * d) d = n := by
  simp [divideToEven, Nat.mul_div_cancel n hd, hd]

theorem rounded_of_log2_le (h : n.log2 ≤ 52) : rounded n = n * 2 ^ (52 - n.log2) := by
  rw [rounded, Nat.sub_eq_zero_of_le h, pow_zero]
  simpa using divideToEven_mul (n * 2 ^ (52 - n.log2)) Nat.one_pos

theorem rounded_two_pow (k : Nat) : rounded (2 ^ k) = 2 ^ 52 := by
  have hsplit : 2 ^ k * 2 ^ (52 - k) = 2 ^ 52 * 2 ^ (k - 52) := by
    rw [← pow_add, ← pow_add]
    congr 1
    omega
  rw [rounded, Nat.log2_two_pow, hsplit, divideToEven_mul _ (Nat.two_pow_pos _)]

/-- A number of no more bits than a significand has is not rounded. -/
theorem value_ofNat_of_log2_le (h : n.log2 ≤ 52) : (ofNat n).value = n := by
  by_cases hn : n = 0
  · subst hn
    exact value_zero.trans Nat.cast_zero.symm
  · have hscale : (2 : ℚ) ^ (52 - n.log2) * (2 : ℚ) ^ ((n.log2 : ℤ) - 52) = 1 := by
      rw [← zpow_natCast, ← zpow_add₀ two_ne_zero, Nat.cast_sub h]
      norm_num
    rw [(ofNat_fields hn (by omega)).2.2, rounded_of_log2_le h]
    push_cast
    rw [mul_assoc, hscale, mul_one]

theorem value_ofNat_two_pow {k : Nat} (hk : k < 1023) : (ofNat (2 ^ k)).value = 2 ^ k := by
  have hpower : 2 ^ k ≠ 0 := (Nat.two_pow_pos k).ne'
  have hlimit : (2 ^ k).log2 < 1023 := by rwa [Nat.log2_two_pow]
  rw [(ofNat_fields hpower hlimit).2.2, rounded_two_pow, Nat.log2_two_pow, Nat.cast_pow,
    Nat.cast_ofNat, ← zpow_natCast, ← zpow_add₀ two_ne_zero, ← zpow_natCast]
  congr 1
  push_cast
  ring

theorem value_ofNat_of_le (h : n ≤ 2 ^ 53) : (ofNat n).value = n := by
  obtain hlt | rfl := Nat.lt_or_eq_of_le h
  · apply value_ofNat_of_log2_le
    by_cases hn : n = 0
    · rw [hn]
      decide
    · have hlog := (Nat.log2_lt hn).mpr hlt
      omega
  · rw [value_ofNat_two_pow (by decide)]
    norm_num

/-- What a whole number is rounded to is a whole number. -/
theorem exists_value_ofNat (hlimit : n.log2 < 1023) : ∃ m : Nat, (ofNat n).value = m := by
  by_cases hlog : n.log2 ≤ 52
  · exact ⟨n, value_ofNat_of_log2_le hlog⟩
  · have hn : n ≠ 0 := by
      rintro rfl
      exact hlog (by decide)
    refine ⟨rounded n * 2 ^ (n.log2 - 52), ?_⟩
    rw [(ofNat_fields hn hlimit).2.2]
    push_cast
    rw [← zpow_natCast, Nat.cast_sub (by omega)]
    rfl

theorem negative_ofNat (hlimit : n.log2 < 1023) : (ofNat n).negative = false := by
  by_cases hn : n = 0
  · subst hn
    decide
  · have hvalue := (ofNat_fields hn hlimit).2.2
    have hpos : 0 < (ofNat n).value := by
      have hrounded : 0 < rounded n := (Nat.two_pow_pos 52).trans_le (rounded_bounds hn).1
      rw [hvalue]
      positivity
    by_contra hsign
    have hsign : (ofNat n).negative = true := by simpa using hsign
    have hnonneg := magnitudeAt_nonneg (ofNat n).place
    rw [value_eq, hsign] at hpos
    simp only [signum, ↓reduceIte] at hpos
    linarith

theorem value_eq_magnitudeAt (hx : x.negative = false) : x.value = magnitudeAt x.place := by
  rw [value_eq, hx]
  simp [signum]

/-- A whole number written in full is rounded to its double. -/
theorem roundsTo_ofNat (hlimit : n.log2 < 1023) :
    (⟨false, n, 0⟩ : Decimal).RoundsTo (ofNat n) := by
  obtain ⟨hfinite, hclosest, heven⟩ := isNearest_ofNat hlimit
  have hvalue : (⟨false, n, 0⟩ : Decimal).value = n := by
    simp [Decimal.value, Decimal.magnitude, signum]
  refine ⟨hfinite, negative_ofNat hlimit, ?_, ?_, ?_⟩
  · rw [hvalue]
    exact hclosest
  · rw [hvalue]
    exact heven
  · have hbits {k : Nat} (hk : n.log2 < k) : n < 2 ^ k :=
      Nat.lt_log2_self.trans_le (Nat.pow_le_pow_right (by decide) hk)
    have hlt : n < 2 ^ (53 + 970) := hbits hlimit
    have hcast : (n : ℚ) < 2 ^ (53 + 970) := by exact_mod_cast hlt
    have hpos : (0 : ℚ) < 2 ^ 970 := by positivity
    rw [pow_add] at hcast
    rw [hvalue, Nat.abs_cast, Decimal.overflow]
    generalize (2 : ℚ) ^ 970 = power at hcast hpos
    linarith

/-! ### Order -/

/-- A larger number is not rounded to a smaller double. -/
theorem place_ofNat_mono (hle : m ≤ n) (hm : m.log2 < 1023) (hn : n.log2 < 1023) :
    (ofNat m).place ≤ (ofNat n).place := by
  by_contra hplace
  have hlt : (ofNat n).value < (ofNat m).value := by
    rw [value_eq_magnitudeAt (negative_ofNat hn), value_eq_magnitudeAt (negative_ofNat hm)]
    exact magnitudeAt_strictMono (Nat.not_le.mp hplace)
  have hnearest := isNearest_ofNat hm
  have hnearest' := isNearest_ofNat hn
  have hlow := add_le_of_abs_sub_le hlt (hnearest.closest _ hnearest'.finite)
  have hhigh := le_add_of_abs_sub_le hlt (hnearest'.closest _ hnearest.finite)
  have hsame : m = n := by
    apply Nat.le_antisymm hle
    have hcast : (n : ℚ) ≤ m := by linarith
    exact_mod_cast hcast
  rw [hsame] at hplace
  exact hplace (Nat.le_refl _)

/-! ### What is shown -/

/-- A double that is a whole number has a whole number as its shortest decimal. -/
theorem exponent_shortest_nonneg (hx : x.negative = false) (hvalue : x.value = m) :
    0 ≤ (x.shortest tie).exponent := by
  unfold shortest
  split_ifs with hzero
  · exact le_rfl
  · have hunit : x.unit ≤ 0 := min_le_right _ _
    have hinterval : (x.interval.value : ℚ) * 10 ^ x.unit = m := by
      rw [← hvalue, value_eq_magnitudeAt hx, magnitudeAt_place]
    have hmultiple : x.interval.value = m * 10 ^ (-x.unit).toNat := by
      have hcast : (x.interval.value : ℚ) = (m * 10 ^ (-x.unit).toNat : ℕ) := by
        push_cast
        rw [← zpow_natCast, Int.toNat_of_nonneg (by omega), ← hinterval, mul_assoc,
          ← zpow_add₀ (by norm_num), add_neg_cancel, zpow_zero, mul_one]
      exact_mod_cast hcast
    have hholds := holds_value hzero
    have hm : m ≠ 0 := by
      rintro rfl
      rw [hmultiple, Nat.zero_mul] at hholds
      exact absurd (Decimal.Interval.holds_iff.mp hholds).1 (Nat.not_le.mpr (low_pos hzero))
    have hpower := Decimal.Interval.le_power hholds (hmultiple ▸ hholds) hm
    show 0 ≤ x.unit + x.interval.power
    omega

/-- A double that is a whole number is written as one, in digits only. -/
theorem expose_whole (hfinite : x.isFinite = true) (hx : x.negative = false)
    (hvalue : x.value = m) :
    x.expose = decimal (digitsValue x.expose) ∧
      (x.shortest .up).magnitude = digitsValue x.expose := by
  have hexponent : 0 ≤ (x.shortest .up).exponent := exponent_shortest_nonneg hx hvalue
  obtain ⟨hlayout, -, hdigits⟩ := Json.places_whole (x.units_shortest .up) hexponent
  have hexpose : x.expose = (x.shortest .up).unsignedPositional := by
    rw [expose, if_pos hfinite, Decimal.positional, Decimal.sign, negative_shortest, hx]
    rfl
  have hdecimal : decimal ((x.shortest .up).units * 10 ^ (x.shortest .up).exponent.toNat) =
      (x.shortest .up).unsignedPositional := by
    rw [hlayout]
    obtain hunits | hnone := x.units_shortest .up
    · exact Decimal.decimal_mul_pow hunits _
    · simp [hnone, Decimal.zeros]
  rw [hexpose, hdigits]
  refine ⟨hdecimal.symm, ?_⟩
  rw [Decimal.magnitude]
  push_cast
  rw [← zpow_natCast, Int.toNat_of_nonneg hexponent]

/-- The number that the text of a word reads as. -/
def shownWord (v : UInt64) : Nat := digitsValue (ofWord v).expose

theorem log2_lt_of_lt (h : n < 2 ^ 65) : n.log2 < 1023 := by
  by_cases hzero : n = 0
  · rw [hzero]
    decide
  · have hlog := (Nat.log2_lt hzero).mpr h
    omega

theorem log2_toNat_lt (v : UInt64) : v.toNat.log2 < 1023 :=
  log2_lt_of_lt (v.toNat_lt.trans (by decide))

theorem expose_ofWord (v : UInt64) :
    (ofWord v).expose = decimal (shownWord v) ∧
      ((ofWord v).shortest .up).magnitude = shownWord v := by
  obtain ⟨m, hm⟩ := exists_value_ofNat (log2_toNat_lt v)
  exact expose_whole (isNearest_ofWord v).finite (negative_ofNat (log2_toNat_lt v)) hm

theorem shownWord_mono {v w : UInt64} (h : v ≤ w) : shownWord v ≤ shownWord w := by
  have hle : v.toNat ≤ w.toNat := UInt64.le_iff_toNat_le.mp h
  have hplace := place_ofNat_mono hle (log2_toNat_lt v) (log2_toNat_lt w)
  have hmagnitude : ((ofWord v).shortest .up).magnitude ≤ ((ofWord w).shortest .up).magnitude := by
    obtain hlt | heq := Nat.lt_or_eq_of_le hplace
    · exact (magnitude_shortest_lt hlt).le
    · have hsign := (negative_ofNat (log2_toNat_lt v)).trans (negative_ofNat (log2_toNat_lt w)).symm
      have hsame : ofWord v = ofWord w := eq_of_place hsign heq
      rw [hsame]
  rw [(expose_ofWord v).2, (expose_ofWord w).2] at hmagnitude
  exact_mod_cast hmagnitude

theorem shownWord_le (v : UInt64) : shownWord v ≤ 18446744073709552000 := by
  have hlast : shownWord 18446744073709551615 = 18446744073709552000 := by decide +kernel
  rw [← hlast]
  exact shownWord_mono (UInt64.le_iff_toNat_le.mpr (Nat.le_of_lt_succ v.toNat_lt))

theorem log2_shownWord_lt (v : UInt64) : (shownWord v).log2 < 1023 :=
  log2_lt_of_lt ((shownWord_le v).trans_lt (by decide))

/-- What is shown is rounded to the double that the word is rounded to. -/
theorem ofNat_shownWord (v : UInt64) : ofNat (shownWord v) = ofWord v := by
  have hrounds := roundsTo_shortest (isNearest_ofWord v).finite .up
  have hsign : (⟨false, shownWord v, 0⟩ : Decimal).negative =
      ((ofWord v).shortest .up).negative := by
    rw [negative_shortest]
    exact (negative_ofNat (log2_toNat_lt v)).symm
  have hmagnitude : (⟨false, shownWord v, 0⟩ : Decimal).magnitude =
      ((ofWord v).shortest .up).magnitude := by
    rw [(expose_ofWord v).2, Decimal.magnitude]
    simp
  have hrounds' := (Decimal.roundsTo_congr hsign hmagnitude).mpr hrounds
  exact (roundsTo_ofNat (log2_shownWord_lt v)).unique hrounds'

/-- Words that a double holds are shown as they are. -/
theorem shownWord_of_le {v : UInt64} (h : v.toNat ≤ 2 ^ 53) : shownWord v = v.toNat := by
  have hlast : shownWord 9007199254740992 = 2 ^ 53 := by decide +kernel
  have hshown : shownWord v ≤ 2 ^ 53 := by
    rw [← hlast]
    exact shownWord_mono (UInt64.le_iff_toNat_le.mpr h)
  have hvalue : (ofNat (shownWord v)).value = (ofNat v.toNat).value := by
    rw [ofNat_shownWord]
    rfl
  rw [value_ofNat_of_le hshown, value_ofNat_of_le h] at hvalue
  exact_mod_cast hvalue

/-- **Words are shown as whole numbers that keep their order and their doubles.** The line of a
sample ends with the digits of one number, which is the word itself up to `2 ^ 53` and is rounded to
the same double always, for the last words to the double of `2 ^ 64`. -/
theorem words_shown_whole :
    (∀ (s : Sample) (v : UInt64), Exposition.line { s with value := .ofWord v } =
        s.name.toList ++ Exposition.labelsText s.labels ++ ' ' :: decimal (shownWord v)) ∧
      (∀ v : UInt64, v.toNat ≤ 2 ^ 53 → shownWord v = v.toNat) ∧
      (∀ v, ofNat (shownWord v) = ofWord v ∧ (ofWord v).IsNearest (shownWord v) ∧
        (ofWord v).IsNearest v.toNat) ∧
      (∀ v w, v ≤ w → shownWord v ≤ shownWord w) ∧
      ofWord 18446744073709551615 = ofNat (2 ^ 64) ∧ (ofNat (2 ^ 64)).value = 2 ^ 64 := by
  refine ⟨?_, fun v h => shownWord_of_le h, ?_, fun v w h => shownWord_mono h, ?_, ?_⟩
  · intro s v
    rw [← (expose_ofWord v).1]
    rfl
  · intro v
    have hnearest := isNearest_ofNat (log2_shownWord_lt v)
    rw [ofNat_shownWord] at hnearest
    exact ⟨ofNat_shownWord v, hnearest, isNearest_ofWord v⟩
  · decide +kernel
  · exact value_ofNat_two_pow (by decide)

end CardTelemetry.Binary64
