import CardTelemetry.Proofs.Binary64.Nearest

/-!
# Doubles in order

The bits of a double behind its sign are its place. The number at the next place is larger by the
spacing at this one, so that places are in the order of the numbers, without a number between two
that follow each other. The places after the finite doubles are not told apart.
-/

namespace CardTelemetry.Binary64

/-- The bits without the sign. -/
def place (x : Binary64) : Nat := x.bits.toNat % 2 ^ 63

/-- The significand at a place. -/
def significandAt (i : Nat) : Nat := if i / 2 ^ 52 = 0 then i % 2 ^ 52 else 2 ^ 52 + i % 2 ^ 52

/-- The power of two of the last bit of the significand at a place. -/
def scaleAt (i : Nat) : ℤ := (max (i / 2 ^ 52) 1 : ℕ) - 1075

/-- The number at a place, without its sign. -/
def magnitudeAt (i : Nat) : ℚ := significandAt i * (2 : ℚ) ^ scaleAt i

/-- The first place after the finite doubles. -/
def placeLimit : Nat := 2047 * 2 ^ 52

def ofPlace (negative : Bool) (i : Nat) : Binary64 :=
  ⟨UInt64.ofNat ((if negative then 2 ^ 63 else 0) + i)⟩

/-- The sign as a factor. -/
def signum (negative : Bool) : ℚ := if negative then -1 else 1

variable {x y : Binary64} {i : Nat}

/-! ### Places and fields -/

theorem exponentField_eq (x : Binary64) : x.exponentField = x.place / 2 ^ 52 := by
  simp only [exponentField, place, Nat.pow_eq]
  omega

theorem fractionField_eq (x : Binary64) : x.fractionField = x.place % 2 ^ 52 := by
  simp only [fractionField, place, Nat.pow_eq]
  omega

theorem significand_eq (x : Binary64) : x.significand = significandAt x.place := by
  rw [significand, exponentField_eq, fractionField_eq]
  rfl

theorem scale_eq (x : Binary64) : x.scale = scaleAt x.place := by
  rw [scale, exponentField_eq]
  rfl

theorem value_eq (x : Binary64) : x.value = signum x.negative * magnitudeAt x.place := by
  rw [value, significand_eq, scale_eq]
  rfl

theorem isFinite_iff : x.isFinite = true ↔ x.place < placeLimit := by
  have hplace : x.place < 2 ^ 63 := Nat.mod_lt _ (by decide)
  rw [isFinite, exponentField_eq, bne_iff_ne, placeLimit]
  omega

theorem ofPlace_fields (negative : Bool) (hi : i < 2 ^ 63) :
    (ofPlace negative i).place = i ∧ (ofPlace negative i).negative = negative := by
  have hbits : (ofPlace negative i).bits.toNat = (if negative then 2 ^ 63 else 0) + i :=
    UInt64.toNat_ofNat_of_lt' (by show _ < 2 ^ 64; cases negative <;> simp <;> omega)
  rw [place, Binary64.negative, hbits]
  cases negative <;> simp <;> omega

/-- A double is known by its sign and its place. -/
theorem eq_of_place (hsign : x.negative = y.negative) (hplace : x.place = y.place) : x = y := by
  have hx : x.bits.toNat < 2 ^ 64 := x.bits.toNat_lt
  have hy : y.bits.toNat < 2 ^ 64 := y.bits.toNat_lt
  simp only [negative, place, Nat.pow_eq, decide_eq_decide] at hsign hplace
  have hbits : x.bits = y.bits := UInt64.toNat_inj.mp (by omega)
  cases x
  cases y
  exact congrArg mk hbits

/-! ### The next place -/

theorem significandAt_mod_two (i : Nat) : significandAt i % 2 = i % 2 := by
  unfold significandAt
  split <;> omega

theorem magnitudeAt_succ (i : Nat) : magnitudeAt (i + 1) = magnitudeAt i + (2 : ℚ) ^ scaleAt i := by
  by_cases hcarry : i % 2 ^ 52 = 2 ^ 52 - 1 ∧ i / 2 ^ 52 ≠ 0
  · -- the significand is full, and the exponent is raised
    obtain ⟨hfull, hnormal⟩ := hcarry
    have hscale : scaleAt (i + 1) = scaleAt i + 1 := by
      rw [scaleAt, scaleAt]
      omega
    have hsignificand : significandAt i = 2 ^ 53 - 1 := by
      rw [significandAt, if_neg hnormal, hfull]
      rfl
    have hnext : significandAt (i + 1) = 2 ^ 52 := by
      rw [significandAt, if_neg (by omega)]
      omega
    rw [magnitudeAt, magnitudeAt, hscale, hsignificand, hnext, zpow_add_one₀ two_ne_zero]
    push_cast
    ring
  · have hsignificand : significandAt (i + 1) = significandAt i + 1 := by
      rw [significandAt, significandAt]
      split_ifs <;> omega
    have hscale : scaleAt (i + 1) = scaleAt i := by
      rw [scaleAt, scaleAt]
      omega
    rw [magnitudeAt, magnitudeAt, hsignificand, hscale]
    push_cast
    ring

theorem magnitudeAt_strictMono : StrictMono magnitudeAt := by
  refine strictMono_nat_of_lt_succ fun i => ?_
  rw [magnitudeAt_succ]
  exact lt_add_of_pos_right _ (by positivity)

theorem magnitudeAt_nonneg (i : Nat) : 0 ≤ magnitudeAt i := by
  unfold magnitudeAt
  positivity

theorem magnitudeAt_zero : magnitudeAt 0 = 0 := by
  simp [magnitudeAt, significandAt]

theorem magnitudeAt_placeLimit : magnitudeAt placeLimit = 2 ^ 1024 := by
  have hsignificand : significandAt placeLimit = 2 ^ 52 := by decide
  have hscale : scaleAt placeLimit = 972 := by decide
  rw [magnitudeAt, hsignificand, hscale, Nat.cast_pow, Nat.cast_ofNat, zpow_ofNat, ← pow_add]

/-- The spacing below a double is that above it, or half of it at a power of two. -/
theorem scaleAt_pred (x : Binary64) :
    scaleAt (x.place - 1) = if x.atBinade then x.scale - 1 else x.scale := by
  have hiff : x.atBinade = true ↔ x.place % 2 ^ 52 = 0 ∧ 1 < x.place / 2 ^ 52 := by
    rw [atBinade, exponentField_eq, fractionField_eq]
    simp
  rw [scale_eq]
  simp only [hiff, scaleAt]
  split <;> omega

end CardTelemetry.Binary64
