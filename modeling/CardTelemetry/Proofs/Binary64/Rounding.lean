import CardTelemetry.Decimal.Layout
import CardTelemetry.Proofs.Binary64.Places

/-!
# Decimals rounded to doubles

A decimal is rounded to the nearest double, halfway between two to the one with the even
significand, and zero keeps its sign. There is one such double at most, and one as long as the
decimal is not so large that it would be rounded to an infinity. How a double is found is not said.
-/

namespace CardTelemetry

open Binary64 (magnitudeAt placeLimit signum)

namespace Decimal

/-- The number without its sign. -/
def magnitude (d : Decimal) : ℚ := d.units * (10 : ℚ) ^ d.exponent

def value (d : Decimal) : ℚ := signum d.negative * d.magnitude

theorem magnitude_nonneg (d : Decimal) : 0 ≤ d.magnitude := by
  unfold magnitude
  positivity

/-- Numbers of one sign are told apart by their sizes. -/
theorem value_inj {d d' : Decimal} (h : d.negative = d'.negative) :
    d.value = d'.value ↔ d.magnitude = d'.magnitude := by
  have hsign : signum d'.negative ≠ 0 := by
    cases d'.negative <;> simp [signum]
  rw [value, value, h, mul_right_inj' hsign]

/-- Halfway between the largest double and the power of two that would follow it. -/
def overflow : ℚ := (2 ^ 54 - 1) * 2 ^ 970

/-- The double is what the decimal is rounded to. -/
structure RoundsTo (d : Decimal) (x : Binary64) : Prop where
  finite : x.isFinite = true
  sign : x.negative = d.negative
  closest : ∀ y : Binary64, y.isFinite = true → |x.value - d.value| ≤ |y.value - d.value|
  even : ∀ y : Binary64, y.isFinite = true → |y.value - d.value| = |x.value - d.value| →
    y.value = x.value ∨ x.significand % 2 = 0
  inRange : |d.value| < overflow

/-- Only the sign and the size of a decimal count for how it is rounded. -/
theorem roundsTo_congr {d d' : Decimal} {x : Binary64} (hnegative : d'.negative = d.negative)
    (hmagnitude : d'.magnitude = d.magnitude) : d'.RoundsTo x ↔ d.RoundsTo x := by
  have hvalue : d'.value = d.value := by rw [value, value, hnegative, hmagnitude]
  constructor
  · rintro ⟨hfinite, hsign, hclosest, heven, hrange⟩
    rw [hvalue] at hclosest heven hrange
    exact ⟨hfinite, hsign.trans hnegative, hclosest, heven, hrange⟩
  · rintro ⟨hfinite, hsign, hclosest, heven, hrange⟩
    rw [← hvalue] at hclosest heven hrange
    exact ⟨hfinite, hsign.trans hnegative.symm, hclosest, heven, hrange⟩

end Decimal

namespace Binary64

variable {d : Decimal} {x y : Binary64} {i j : Nat} {u t : ℚ}

theorem abs_signum (negative : Bool) (a : ℚ) : |signum negative * a| = |a| := by
  cases negative <;> simp [signum]

theorem abs_value (x : Binary64) : |x.value| = magnitudeAt x.place := by
  rw [value_eq, abs_signum, abs_of_nonneg (magnitudeAt_nonneg _)]

theorem value_eq_zero_iff : x.value = 0 ↔ x.significand = 0 := by
  have hpower : (2 : ℚ) ^ scaleAt x.place ≠ 0 := by positivity
  rw [← abs_eq_zero, abs_value, magnitudeAt, ← significand_eq, mul_eq_zero_iff_right hpower,
    Nat.cast_eq_zero]

theorem magnitudeAt_overflow : magnitudeAt (placeLimit - 1) + magnitudeAt placeLimit =
    2 * Decimal.overflow := by
  have hstep := magnitudeAt_succ (placeLimit - 1)
  have hscale : scaleAt (placeLimit - 1) = 971 := by decide
  rw [show placeLimit - 1 + 1 = placeLimit by decide, hscale, magnitudeAt_placeLimit,
    zpow_ofNat] at hstep
  have hpower : (2 : ℚ) ^ 1024 = 2 ^ 54 * 2 ^ 970 := by rw [← pow_add]
  have hhalf : (2 : ℚ) ^ 971 = 2 * 2 ^ 970 := by rw [← pow_succ']
  rw [hpower, hhalf] at hstep
  rw [magnitudeAt_placeLimit, Decimal.overflow, hpower]
  generalize (2 : ℚ) ^ 970 = power at hstep
  linarith

/-! ### What lies nearest -/

/-- The numbers that are nearest to one place. -/
structure Around (i : Nat) (u : ℚ) : Prop where
  low : magnitudeAt (i - 1) + magnitudeAt i ≤ 2 * u
  high : 2 * u ≤ magnitudeAt i + magnitudeAt (i + 1)
  odd : i % 2 = 1 → magnitudeAt (i - 1) + magnitudeAt i < 2 * u ∧
    2 * u < magnitudeAt i + magnitudeAt (i + 1)

/-- Other numbers of doubles are beyond those at the neighbouring places. -/
theorem apart (i j : Nat) (negative : Bool) :
    signum negative * magnitudeAt j = magnitudeAt i ∨
      magnitudeAt (i + 1) ≤ signum negative * magnitudeAt j ∨
      signum negative * magnitudeAt j ≤ magnitudeAt (i - 1) := by
  cases negative with
  | true =>
    have hj := magnitudeAt_nonneg j
    have hi := magnitudeAt_nonneg (i - 1)
    refine .inr (.inr ?_)
    simp only [signum, ↓reduceIte]
    linarith
  | false =>
    simp only [signum, Bool.false_eq_true, ↓reduceIte, one_mul]
    obtain hlt | rfl | hgt := lt_trichotomy i j
    · exact .inr (.inl (magnitudeAt_strictMono.monotone hlt))
    · exact .inl rfl
    · exact .inr (.inr (magnitudeAt_strictMono.monotone (by omega)))

theorem Around.closest (h : Around i u)
    (ht : magnitudeAt (i + 1) ≤ t ∨ t ≤ magnitudeAt (i - 1)) :
    |magnitudeAt i - u| ≤ |t - u| ∧ (i % 2 = 1 → |magnitudeAt i - u| < |t - u|) := by
  have habove : magnitudeAt i < magnitudeAt (i + 1) := magnitudeAt_strictMono (by omega)
  have hbelow : magnitudeAt (i - 1) ≤ magnitudeAt i := magnitudeAt_strictMono.monotone (by omega)
  obtain ⟨hlow, hhigh, hodd⟩ := h
  constructor
  · obtain ht | ht := ht
    · exact (abs_le.mpr ⟨by linarith, by linarith⟩).trans (le_abs_self _)
    · exact (abs_le.mpr ⟨by linarith, by linarith⟩).trans (neg_le_abs _)
  · intro hi
    obtain ⟨hlow, hhigh⟩ := hodd hi
    have hbelow : magnitudeAt (i - 1) < magnitudeAt i := magnitudeAt_strictMono (by omega)
    obtain ht | ht := ht
    · exact (abs_lt.mpr ⟨by linarith, by linarith⟩).trans_le (le_abs_self _)
    · exact (abs_lt.mpr ⟨by linarith, by linarith⟩).trans_le (neg_le_abs _)

/-- What is nearest to one place is below what is nearest to a later one. -/
theorem Around.lt (hi : Around i u) (hj : Around j t) (h : i < j) : u < t := by
  have hbelow : magnitudeAt i ≤ magnitudeAt (j - 1) := magnitudeAt_strictMono.monotone (by omega)
  have habove : magnitudeAt (i + 1) ≤ magnitudeAt j := magnitudeAt_strictMono.monotone h
  have hhigh := hi.high
  have hlow := hj.low
  -- of two places that follow each other one is odd
  by_cases hodd : j % 2 = 1
  · have hlow := (hj.odd hodd).1
    linarith
  · obtain hfar | hnext := Nat.lt_or_eq_of_le (Nat.succ_le_of_lt h)
    · have hbelow : magnitudeAt i < magnitudeAt (j - 1) := magnitudeAt_strictMono (by omega)
      linarith
    · have hhigh := (hi.odd (by omega)).2
      linarith

theorem Around.lt_overflow (h : Around i u) (hi : i < placeLimit) : u < Decimal.overflow := by
  have hlimit := magnitudeAt_overflow
  by_cases hlast : i = placeLimit - 1
  · -- the last place is an odd one
    have hhigh := (h.odd (by rw [hlast]; decide)).2
    rw [hlast, show placeLimit - 1 + 1 = placeLimit by decide] at hhigh
    linarith
  · have hlt : magnitudeAt i < magnitudeAt (placeLimit - 1) := magnitudeAt_strictMono (by omega)
    have hle : magnitudeAt (i + 1) ≤ magnitudeAt placeLimit :=
      magnitudeAt_strictMono.monotone (by omega)
    have hhigh := h.high
    linarith

/-- A decimal around a double's place, and with its sign, is rounded to that double. -/
theorem roundsTo_of_around (hx : x.isFinite = true) (hsign : x.negative = d.negative)
    (h : Around x.place d.magnitude) : d.RoundsTo x := by
  have hdistance (y : Binary64) : |y.value - d.value| =
      |signum (y.negative ^^ d.negative) * magnitudeAt y.place - d.magnitude| := by
    have hfactor : y.value - d.value = signum d.negative *
        (signum (y.negative ^^ d.negative) * magnitudeAt y.place - d.magnitude) := by
      rw [value_eq, Decimal.value]
      cases y.negative <;> cases d.negative <;> simp [signum] <;> ring
    rw [hfactor, abs_signum]
  have hself : |x.value - d.value| = |magnitudeAt x.place - d.magnitude| := by
    rw [hdistance, hsign]
    simp [signum]
  have hvalue (y : Binary64)
      (hy : signum (y.negative ^^ d.negative) * magnitudeAt y.place = magnitudeAt x.place) :
      y.value = x.value := by
    rw [value_eq, value_eq, hsign, ← hy]
    cases y.negative <;> cases d.negative <;> simp [signum]
  refine ⟨hx, hsign, ?_, ?_, ?_⟩
  · intro y _
    rw [hself, hdistance]
    obtain hy | hy := apart x.place y.place (y.negative ^^ d.negative)
    · rw [hy]
    · exact (h.closest hy).1
  · intro y _ heq
    rw [hself, hdistance] at heq
    obtain hy | hy := apart x.place y.place (y.negative ^^ d.negative)
    · exact .inl (hvalue y hy)
    · refine .inr ?_
      rw [significand_eq, significandAt_mod_two]
      by_contra hodd
      exact absurd heq ((h.closest hy).2 (by omega)).ne'
  · rw [Decimal.value, abs_signum, abs_of_nonneg d.magnitude_nonneg]
    exact h.lt_overflow (isFinite_iff.mp hx)

/-! ### What is nearest from what is rounded to it -/

/-- A number that is as near to the larger of two as to the other is not below their middle. -/
theorem add_le_of_abs_sub_le {a b c : ℚ} (hlt : b < a) (h : |a - c| ≤ |b - c|) :
    a + b ≤ 2 * c := by
  have hsquare := sq_le_sq.mpr h
  nlinarith

theorem le_add_of_abs_sub_le {a b c : ℚ} (hlt : b < a) (h : |b - c| ≤ |a - c|) :
    2 * c ≤ a + b := by
  have hsquare := sq_le_sq.mpr h
  nlinarith

/-- Of two numbers a tie is as far from one as from the other. -/
theorem abs_sub_eq_of_add_eq {a b c : ℚ} (h : a + b = 2 * c) : |a - c| = |b - c| := by
  rw [show a - c = -(b - c) by linarith, abs_neg]

theorem around_of_roundsTo (h : d.RoundsTo x) : Around x.place d.magnitude := by
  have hlimit : x.place < placeLimit := isFinite_iff.mp h.finite
  have hdistance {z : Binary64} (hz : z.negative = d.negative) :
      |z.value - d.value| = |magnitudeAt z.place - d.magnitude| := by
    rw [value_eq, Decimal.value, hz, ← mul_sub, abs_signum]
  -- a place next to the double's is no nearer, and as near only if the significand is even
  have hother (j : Nat) (hj : j < placeLimit) (hne : magnitudeAt j ≠ magnitudeAt x.place) :
      |magnitudeAt x.place - d.magnitude| ≤ |magnitudeAt j - d.magnitude| ∧
        (magnitudeAt j + magnitudeAt x.place = 2 * d.magnitude → x.place % 2 = 0) := by
    have hplace : placeLimit < 2 ^ 63 := by decide
    obtain ⟨hyplace, hysign⟩ := ofPlace_fields d.negative (hj.trans hplace)
    have hyfinite : (ofPlace d.negative j).isFinite = true := by
      rwa [isFinite_iff, hyplace]
    have hclosest := h.closest _ hyfinite
    have heven := h.even _ hyfinite
    rw [hdistance h.sign, hdistance hysign, hyplace] at hclosest heven
    refine ⟨hclosest, fun hmiddle => ?_⟩
    have hvalue : (ofPlace d.negative j).value ≠ x.value := by
      rw [value_eq, value_eq, hysign, h.sign, hyplace]
      cases d.negative <;> simpa [signum] using hne
    have hsignificand := (heven (abs_sub_eq_of_add_eq hmiddle)).resolve_left hvalue
    rwa [significand_eq, significandAt_mod_two] at hsignificand
  have hlow : magnitudeAt (x.place - 1) + magnitudeAt x.place ≤ 2 * d.magnitude ∧
      (x.place % 2 = 1 → magnitudeAt (x.place - 1) + magnitudeAt x.place ≠ 2 * d.magnitude) := by
    by_cases hzero : x.place = 0
    · rw [hzero]
      refine ⟨?_, fun hodd => absurd hodd (by decide)⟩
      simpa [magnitudeAt_zero] using d.magnitude_nonneg
    · have hlt : magnitudeAt (x.place - 1) < magnitudeAt x.place :=
        magnitudeAt_strictMono (by omega)
      obtain ⟨hclosest, heven⟩ := hother (x.place - 1) (by omega) hlt.ne
      refine ⟨?_, fun hodd hmiddle => absurd (heven hmiddle) (by omega)⟩
      rw [add_comm]
      exact add_le_of_abs_sub_le hlt hclosest
  have hhigh : 2 * d.magnitude ≤ magnitudeAt x.place + magnitudeAt (x.place + 1) ∧
      (x.place % 2 = 1 → 2 * d.magnitude ≠ magnitudeAt x.place + magnitudeAt (x.place + 1)) := by
    by_cases hlast : x.place + 1 = placeLimit
    · have hrange := h.inRange
      have hmiddle := magnitudeAt_overflow
      rw [Decimal.value, abs_signum, abs_of_nonneg d.magnitude_nonneg] at hrange
      rw [hlast, show x.place = placeLimit - 1 by omega, hmiddle]
      have hlt : 2 * d.magnitude < 2 * Decimal.overflow := by linarith
      exact ⟨hlt.le, fun _ => hlt.ne⟩
    · have hlt : magnitudeAt x.place < magnitudeAt (x.place + 1) :=
        magnitudeAt_strictMono (by omega)
      obtain ⟨hclosest, heven⟩ := hother (x.place + 1) (by omega) hlt.ne'
      refine ⟨?_, fun hodd hmiddle => ?_⟩
      · rw [add_comm]
        exact le_add_of_abs_sub_le hlt hclosest
      · rw [add_comm] at hmiddle
        exact absurd (heven hmiddle.symm) (by omega)
  refine ⟨hlow.1, hhigh.1, fun hodd => ?_⟩
  exact ⟨lt_of_le_of_ne hlow.1 (hlow.2 hodd), lt_of_le_of_ne hhigh.1 (hhigh.2 hodd)⟩

/-- Exactly the decimals around a double's place are rounded to it, if they have its sign. -/
theorem roundsTo_iff_around (hx : x.isFinite = true) (hsign : x.negative = d.negative) :
    d.RoundsTo x ↔ Around x.place d.magnitude :=
  ⟨around_of_roundsTo, roundsTo_of_around hx hsign⟩

/-! ### One double only -/

theorem not_roundsTo_of_place_lt (hx : d.RoundsTo x) (hy : d.RoundsTo y) :
    ¬ x.place < y.place := by
  intro hlt
  have hdistance {z : Binary64} (hz : z.negative = d.negative) :
      |z.value - d.value| = |magnitudeAt z.place - d.magnitude| := by
    rw [value_eq, Decimal.value, hz, ← mul_sub, abs_signum]
  have hsame : |x.value - d.value| = |y.value - d.value| :=
    le_antisymm (hx.closest y hy.finite) (hy.closest x hx.finite)
  have hmagnitude : magnitudeAt x.place < magnitudeAt y.place := magnitudeAt_strictMono hlt
  -- the decimal is halfway between the two, so that both significands are even
  have hvalue : y.value ≠ x.value := by
    rw [value_eq, value_eq, hx.sign, hy.sign]
    have hne := hmagnitude.ne'
    cases d.negative <;> simpa [signum] using hne
  have hxeven := (hx.even y hy.finite hsame.symm).resolve_left hvalue
  have hyeven := (hy.even x hx.finite hsame).resolve_left hvalue.symm
  rw [significand_eq, significandAt_mod_two] at hxeven hyeven
  have hhalf : magnitudeAt x.place + magnitudeAt y.place = 2 * d.magnitude := by
    rw [hdistance hx.sign, hdistance hy.sign, abs_eq_abs] at hsame
    obtain hsame | hsame := hsame <;> linarith
  -- so there is a place between theirs, which is nearer
  have hplace : y.place < 2 ^ 63 := Nat.mod_lt _ (by decide)
  obtain ⟨hzplace, hzsign⟩ := ofPlace_fields d.negative (by omega : x.place + 1 < 2 ^ 63)
  have hzfinite : (ofPlace d.negative (x.place + 1)).isFinite = true := by
    rw [isFinite_iff, hzplace]
    exact lt_of_le_of_lt hlt (isFinite_iff.mp hy.finite)
  have hcloser := hx.closest _ hzfinite
  rw [hdistance hx.sign, hdistance hzsign, hzplace] at hcloser
  have habove : magnitudeAt x.place < magnitudeAt (x.place + 1) :=
    magnitudeAt_strictMono (by omega)
  have hbelow : magnitudeAt (x.place + 1) < magnitudeAt y.place :=
    magnitudeAt_strictMono (by omega)
  have hfar : |magnitudeAt (x.place + 1) - d.magnitude| < |magnitudeAt x.place - d.magnitude| := by
    rw [abs_of_neg (by linarith : magnitudeAt x.place - d.magnitude < 0)]
    exact abs_lt.mpr ⟨by linarith, by linarith⟩
  exact absurd hcloser (not_le.mpr hfar)

end Binary64

/-- A decimal is rounded to one double only. -/
theorem Decimal.RoundsTo.unique {d : Decimal} {x y : Binary64} (hx : d.RoundsTo x)
    (hy : d.RoundsTo y) : x = y := by
  apply Binary64.eq_of_place (hx.sign.trans hy.sign.symm)
  have hxy := Binary64.not_roundsTo_of_place_lt hx hy
  have hyx := Binary64.not_roundsTo_of_place_lt hy hx
  omega

end CardTelemetry
