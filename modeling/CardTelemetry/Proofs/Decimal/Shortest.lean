import CardTelemetry.Decimal.Shortest
import Mathlib.Data.Nat.Digits.Lemmas

/-!
# Decimals in an interval

The shortest decimal is in its interval, and no multiple of a higher power of ten is. So it does not
end in a zero. Which of two decimals stands for a number halfway between them is where the two ways
to break a tie differ, and they differ nowhere else.
-/

namespace CardTelemetry

namespace Decimal

/-! ### The largest power -/

theorem largest_spec (test : Nat → Bool) (n : Nat) :
    largest test n = 0 ∨ test (largest test n) = true := by
  induction n with
  | zero => exact .inl rfl
  | succ n ih =>
    rw [largest]
    split
    · exact .inr ‹_›
    · exact ih

theorem le_largest {test : Nat → Bool} {k n : Nat} (htest : test k = true) (hk : k ≤ n) :
    k ≤ largest test n := by
  induction n with
  | zero => exact hk
  | succ n ih =>
    rw [largest]
    split
    · exact hk
    · rename_i hlast
      have hne : k ≠ n + 1 := fun heq => hlast (heq ▸ htest)
      exact ih (by omega)

namespace Interval

variable {i : Interval} {tie : Tie} {k : Nat}

theorem holds_iff {n : Nat} :
    i.holds n = true ↔ i.low ≤ n ∧ n ≤ i.high ∧ (i.closed = false → i.low < n ∧ n < i.high) := by
  unfold holds
  cases i.closed
  · simp
    omega
  · simp

theorem holds_nearest (h : i.fits k = true) : i.holds (i.nearest tie k * 10 ^ k) = true := by
  have hlower : i.lowerFits k = true → i.holds (i.quotient k * 10 ^ k) = true := id
  have hupper : i.upperFits k = true → i.holds ((i.quotient k + 1) * 10 ^ k) = true := id
  rw [fits, Bool.or_eq_true] at h
  unfold nearest
  dsimp only
  split_ifs with hu hl
  · exact hlower (h.resolve_right (by simpa using hu))
  · exact hupper (by simpa using hu)
  · exact hlower (by simpa using hl)
  · exact hupper (by simpa using hu)
  · exact hlower (by simpa using hl)
  · exact hupper (by simpa using hu)

/-- The shortest decimal is in the interval, where the number itself is. -/
theorem holds_shortest (h : i.holds i.value = true) (tie : Tie) :
    i.holds (i.shortest tie * 10 ^ i.power) = true := by
  apply holds_nearest
  obtain hzero | hfits := largest_spec i.fits (Nat.toDigits 10 i.high).length
  · have hself : i.quotient 0 * Nat.pow 10 0 = i.value := by
      simp [quotient]
    rw [power, hzero, fits, lowerFits, hself, h, Bool.true_or]
  · exact hfits

/-! ### No coarser decimal -/

section Coarser

variable {m : Nat}

/-- Between two numbers of an interval there is no other. -/
theorem holds_of_between {a b c : Nat} (ha : i.holds a = true) (hb : i.holds b = true)
    (hac : a ≤ c) (hcb : c ≤ b) : i.holds c = true := by
  obtain ⟨hlow, -, hopen⟩ := holds_iff.mp ha
  obtain ⟨-, hhigh, hopen'⟩ := holds_iff.mp hb
  refine holds_iff.mpr ⟨hlow.trans hac, hcb.trans hhigh, fun hclosed => ?_⟩
  exact ⟨(hopen hclosed).1.trans_le hac, hcb.trans_lt (hopen' hclosed).2⟩

/-- If some multiple of a power of ten is in the interval, then so is one next to the number. -/
theorem fits_of_holds (hvalue : i.holds i.value = true) (hm : i.holds (m * 10 ^ k) = true) :
    i.fits k = true := by
  have hpos : 0 < 10 ^ k := Nat.pow_pos (by decide)
  have hfloor : i.quotient k * 10 ^ k ≤ i.value := Nat.div_mul_le_self ..
  have hceil : i.value < (i.quotient k + 1) * 10 ^ k :=
    Nat.lt_mul_of_div_lt (Nat.lt_succ_self _) hpos
  rw [fits, Bool.or_eq_true]
  by_cases hle : m ≤ i.quotient k
  · left
    exact holds_of_between hm hvalue (Nat.mul_le_mul_right _ hle) hfloor
  · right
    exact holds_of_between hvalue hm hceil.le (Nat.mul_le_mul_right _ (by omega))

/-- No multiple of a higher power of ten is in the interval. -/
theorem le_power (hvalue : i.holds i.value = true) (hm : i.holds (m * 10 ^ k) = true)
    (hzero : m ≠ 0) : k ≤ i.power := by
  apply le_largest (fits_of_holds hvalue hm)
  by_contra hlength
  have hlt : i.high < 10 ^ k :=
    (Nat.length_toDigits_le_iff (by decide) (by omega)).mp (by omega)
  have hle : 10 ^ k ≤ m * 10 ^ k := Nat.le_mul_of_pos_left _ (Nat.pos_of_ne_zero hzero)
  have hhigh := (holds_iff.mp hm).2.1
  omega

/-- The shortest decimal does not end in a zero. -/
theorem shortest_mod_ten (hvalue : i.holds i.value = true) (hlow : 0 < i.low) :
    i.shortest tie % 10 ≠ 0 := by
  intro hten
  have hholds := holds_shortest hvalue tie
  have hshift : i.shortest tie * 10 ^ i.power = i.shortest tie / 10 * 10 ^ (i.power + 1) := by
    rw [Nat.pow_succ, Nat.mul_comm (10 ^ i.power), ← Nat.mul_assoc,
      Nat.div_mul_cancel (Nat.dvd_of_mod_eq_zero hten)]
  have hpos : 0 < i.shortest tie * 10 ^ i.power := hlow.trans_le (holds_iff.mp hholds).1
  rw [hshift] at hholds hpos
  have hle := le_power hvalue hholds (Nat.pos_of_mul_pos_right hpos).ne'
  omega

/-- The power is that of some multiple in the interval of which no multiple of the next power is. -/
theorem power_eq (hvalue : i.holds i.value = true) (hm : i.holds (m * 10 ^ k) = true)
    (hzero : m ≠ 0) (hnone : ∀ n, i.holds (n * 10 ^ (k + 1)) ≠ true) : i.power = k := by
  refine Nat.le_antisymm (Nat.not_lt.mp fun hlt => ?_) (le_power hvalue hm hzero)
  have hholds := holds_shortest hvalue .up
  have hsplit : i.shortest .up * 10 ^ i.power =
      i.shortest .up * 10 ^ (i.power - (k + 1)) * 10 ^ (k + 1) := by
    rw [Nat.mul_assoc, ← Nat.pow_add, Nat.sub_add_cancel hlt]
  rw [hsplit] at hholds
  exact hnone _ hholds

end Coarser

/-! ### Ties -/

/-- Ties are broken upwards and to the even digit alike, but for a number halfway between two
decimals of which the lower is even. -/
theorem nearest_up_or (i : Interval) (k : Nat) :
    i.nearest .up k = i.nearest .even k ∨
      i.nearest .even k % 2 = 0 ∧ i.nearest .up k = i.nearest .even k + 1 ∧
        2 * i.value = (2 * i.nearest .even k + 1) * 10 ^ k := by
  by_cases htie : i.upperFits k = true ∧ i.lowerFits k = true ∧
      2 * (i.value % 10 ^ k) = 10 ^ k ∧ i.quotient k % 2 = 0
  · right
    obtain ⟨hupper, hlower, hhalf, heven⟩ := htie
    have hdivision : i.quotient k * 10 ^ k + i.value % 10 ^ k = i.value := Nat.div_add_mod' ..
    have heq : i.nearest .even k = i.quotient k ∧ i.nearest .up k = i.quotient k + 1 := by
      simp [nearest, hupper, hlower, hhalf, heven]
    rw [heq.1, heq.2]
    refine ⟨heven, rfl, ?_⟩
    rw [Nat.add_mul, Nat.mul_assoc]
    omega
  · left
    -- which way a tie is broken is asked for in the last case only
    unfold nearest
    simp only [Nat.pow_eq]
    split_ifs with hupper hlower hbelow habove hup heven heven <;> try rfl
    · exact hup.1.elim
    · refine absurd ⟨?_, ?_, by omega, heven.2⟩ htie
      · simpa using hupper
      · simpa using hlower

/-- A number halfway between two multiples in the interval, the lower of which is even, is written
as the one or as the other. -/
theorem nearest_of_halfway {n : Nat} (heven : n % 2 = 0) (hlower : i.holds (n * 10 ^ k) = true)
    (hupper : i.holds ((n + 1) * 10 ^ k) = true) (hhalf : 2 * i.value = (2 * n + 1) * 10 ^ k) :
    i.nearest .even k = n ∧ i.nearest .up k = n + 1 := by
  have hpos : 0 < 10 ^ k := Nat.pow_pos (by decide)
  rw [Nat.add_mul, Nat.mul_assoc, Nat.one_mul] at hhalf
  have hquotient : i.quotient k = n := by
    apply Nat.div_eq_of_lt_le <;> rw [Nat.pow_eq]
    · omega
    · rw [Nat.succ_mul]
      omega
  have hrest : 2 * (i.value % 10 ^ k) = 10 ^ k := by
    have hdivision : i.quotient k * 10 ^ k + i.value % 10 ^ k = i.value := Nat.div_add_mod' ..
    rw [hquotient] at hdivision
    omega
  have hfits : i.lowerFits k = true ∧ i.upperFits k = true := by
    rw [lowerFits, upperFits, hquotient]
    exact ⟨hlower, hupper⟩
  simp [nearest, hfits, hquotient, hrest, heven]

end Interval

end Decimal

end CardTelemetry
