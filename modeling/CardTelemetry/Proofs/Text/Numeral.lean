import CardTelemetry.Text.Numeral
import Mathlib.Data.Nat.Digits.Lemmas

/-!
# What a numeral is read as

Digits are read as the number they write in base ten if that is below the limit. The reader
looks at the limit at each digit, which comes to the same, since the value of the digits so
far never exceeds that of all of them. Before the digits there may be a plus sign, and nothing
else is a numeral.
-/

namespace CardTelemetry.Text

/-- The number that digits write, the first of them the highest. -/
def digitsValue (ds : List Char) : Nat :=
  Nat.ofDigits 10 (ds.reverse.map fun c => c.toNat - '0'.toNat)

theorem digitsValue_append (as bs : List Char) :
    digitsValue (as ++ bs) = 10 ^ bs.length * digitsValue as + digitsValue bs := by
  rw [digitsValue, List.reverse_append, List.map_append, Nat.ofDigits_append, List.length_map,
    List.length_reverse, Nat.add_comm]
  rfl

theorem digitsValue_cons (c : Char) (ds : List Char) :
    digitsValue (c :: ds) = 10 ^ ds.length * (c.toNat - '0'.toNat) + digitsValue ds :=
  digitsValue_append [c] ds

theorem digitsValue_zeros (n : Nat) : digitsValue (List.replicate n '0') = 0 := by
  induction n with
  | zero => rfl
  | succ n ih => rw [List.replicate_succ, digitsValue_cons, ih]; simp

theorem digit?_eq (c : Char) :
    digit? c = if c.isDigit then some (c.toNat - '0'.toNat) else none := by
  have hiff : ('0' ≤ c ∧ c ≤ '9') ↔ c.isDigit = true := by
    simp only [Char.isDigit, Bool.and_eq_true, decide_eq_true_eq, Char.le_def]
  rw [digit?]
  simp only [hiff]

theorem isSome_digit? (c : Char) : (digit? c).isSome = c.isDigit := by
  rw [digit?_eq]
  cases c.isDigit <;> rfl

/-- Digits read onto a value below the limit. -/
theorem readDigits_eq_ok_iff {limit value n : Nat} {ds : List Char} (h : value < limit) :
    readDigits limit value ds = .ok n ↔
      (∀ c ∈ ds, c.isDigit = true) ∧ n = 10 ^ ds.length * value + digitsValue ds ∧ n < limit := by
  induction ds generalizing value with
  | nil =>
    simp only [readDigits, Except.ok.injEq, digitsValue, List.reverse_nil, List.map_nil,
      Nat.ofDigits_nil, List.length_nil, Nat.pow_zero]
    constructor
    · rintro rfl
      exact ⟨by simp, by omega, h⟩
    · rintro ⟨-, hn, -⟩
      omega
  | cons c ds ih =>
    rw [readDigits, digit?_eq]
    by_cases hc : c.isDigit = true
    · rw [if_pos hc]
      have hvalue : 10 ^ (c :: ds).length * value + digitsValue (c :: ds) =
          10 ^ ds.length * (10 * value + (c.toNat - '0'.toNat)) + digitsValue ds := by
        rw [digitsValue_cons, List.length_cons, Nat.pow_succ]
        ring
      have hle : 10 * value + (c.toNat - '0'.toNat) ≤
          10 ^ (c :: ds).length * value + digitsValue (c :: ds) := by
        rw [hvalue]
        exact (Nat.le_mul_of_pos_left _ (by positivity)).trans (Nat.le_add_right _ _)
      simp only
      by_cases hlt : 10 * value + (c.toNat - '0'.toNat) < limit
      · rw [if_pos hlt, ih hlt, ← hvalue, List.forall_mem_cons, and_iff_right hc]
      · rw [if_neg hlt]
        constructor
        · intro hr
          cases hr
        · rintro ⟨-, hn, hn'⟩
          omega
    · rw [if_neg hc]
      constructor
      · intro hr
        cases hr
      · intro hr
        exact absurd (hr.1 c List.mem_cons_self) hc

/-- Digits after a sign, or where there is none. -/
theorem readDigits_zero_eq_ok_iff {limit n : Nat} {ds : List Char} (hlimit : 0 < limit) :
    readDigits limit 0 ds = .ok n ↔
      (∀ d ∈ ds, d.isDigit = true) ∧ n = digitsValue ds ∧ n < limit := by
  rw [readDigits_eq_ok_iff hlimit, Nat.mul_zero, Nat.zero_add]

/-- A numeral without a sign. -/
theorem readNumeral_eq_ok_iff {limit n : Nat} {c : Char} {ds : List Char} (hlimit : 0 < limit)
    (hc : c.isDigit = true) :
    readNumeral limit (c :: ds) = .ok n ↔
      (∀ d ∈ c :: ds, d.isDigit = true) ∧ n = digitsValue (c :: ds) ∧ n < limit := by
  have hplus : c ≠ '+' := by
    rintro rfl
    exact absurd hc (by decide)
  have hread : readNumeral limit (c :: ds) = readDigits limit 0 (c :: ds) := by
    cases ds with
    | nil => simp [readNumeral, hplus]
    | cons d ds => simp [readNumeral, hplus]
  rw [hread, readDigits_zero_eq_ok_iff hlimit]

/-- A text that writes a number below a limit: digits, with or without a plus sign. -/
def IsNumeral (limit : Nat) (s : List Char) (n : Nat) : Prop :=
  ∃ ds, ds ≠ [] ∧ (∀ d ∈ ds, d.isDigit = true) ∧ (s = ds ∨ s = '+' :: ds) ∧
    n = digitsValue ds ∧ n < limit

theorem not_digits_plus (rest : List Char) : ¬ ∀ d ∈ '+' :: rest, d.isDigit = true := by
  intro hdigits
  exact absurd (hdigits '+' List.mem_cons_self) (by decide)

/-- Digits are read as they stand. -/
theorem isNumeral_iff_of_digits {limit n : Nat} {ds : List Char} (hne : ds ≠ [])
    (hdigits : ∀ d ∈ ds, d.isDigit = true) :
    IsNumeral limit ds n ↔ n = digitsValue ds ∧ n < limit := by
  constructor
  · intro h
    obtain ⟨ds', -, -, hds | hds, hvalue⟩ := h
    · exact hds ▸ hvalue
    · exact absurd (hds ▸ hdigits) (not_digits_plus ds')
  · intro h
    exact ⟨ds, hne, hdigits, .inl rfl, h⟩

/-- The reader takes numerals and nothing else. -/
theorem readNumeral_eq_ok_iff_isNumeral {limit n : Nat} {s : List Char} (hlimit : 0 < limit) :
    readNumeral limit s = .ok n ↔ IsNumeral limit s n := by
  unfold readNumeral
  split
  · -- the empty text
    refine iff_of_false (by simp) ?_
    intro h
    obtain ⟨ds, hne, -, hs | hs, -⟩ := h
    · exact hne hs.symm
    · cases hs
  · -- a sign and nothing after it
    refine iff_of_false (by simp) ?_
    intro h
    obtain ⟨ds, hne, hdigits, hs | hs, -⟩ := h
    · subst hs
      exact not_digits_plus _ hdigits
    · exact hne (List.cons.inj hs).2.symm
  · rename_i c rest
    rw [readDigits_zero_eq_ok_iff hlimit]
    constructor
    · intro h
      exact ⟨c :: rest, List.cons_ne_nil c rest, h.1, .inr rfl, h.2⟩
    · intro h
      obtain ⟨ds, -, hdigits, hs | hs, hvalue⟩ := h
      · subst hs
        exact absurd hdigits (not_digits_plus _)
      · cases hs
        exact ⟨hdigits, hvalue⟩
  · rename_i hnil hlone hsigned
    rw [readDigits_zero_eq_ok_iff hlimit]
    constructor
    · intro h
      exact ⟨s, hnil, h.1, .inl rfl, h.2⟩
    · intro h
      obtain ⟨ds, hne, hdigits, hs | hs, hvalue⟩ := h
      · subst hs
        exact ⟨hdigits, hvalue⟩
      · obtain ⟨c, rest, rfl⟩ := List.exists_cons_of_ne_nil hne
        exact absurd hs (hsigned c rest)

/-- A text that writes a number of 64 bits. -/
def IsWord (s : String) (n : UInt64) : Prop := IsNumeral UInt64.size s.toList n.toNat

theorem readWord_eq_ok_iff {s : String} {n : UInt64} :
    readWord s.toList = .ok n ↔ IsWord s n := by
  have hsize : 0 < UInt64.size := by decide
  rw [IsWord, ← readNumeral_eq_ok_iff_isNumeral hsize, readWord]
  cases hread : readNumeral UInt64.size s.toList with
  | error f => simp [Except.map]
  | ok k =>
    obtain ⟨-, -, -, -, -, hlt⟩ := (readNumeral_eq_ok_iff_isNumeral hsize).mp hread
    have htoNat : (UInt64.ofNat k).toNat = k := UInt64.toNat_ofNat_of_lt' hlt
    show Except.ok (UInt64.ofNat k) = Except.ok n ↔ Except.ok k = Except.ok n.toNat
    rw [Except.ok.injEq, Except.ok.injEq, ← UInt64.toNat_inj, htoNat]

/-! ### Numerals as they are written -/

theorem ofDigitChars_eq (ds : List Char) (value : Nat) :
    Nat.ofDigitChars 10 ds value = 10 ^ ds.length * value + digitsValue ds := by
  induction ds generalizing value with
  | nil => simp [digitsValue]
  | cons c ds ih =>
    rw [Nat.ofDigitChars_cons, ih, digitsValue_cons, List.length_cons, Nat.pow_succ]
    ring

theorem digitsValue_decimal (n : Nat) : digitsValue (decimal n) = n := by
  have h := ofDigitChars_eq (decimal n) 0
  rw [Nat.mul_zero, Nat.zero_add] at h
  rw [← h]
  exact Nat.ofDigitChars_ten_toDigits

theorem isDigit_of_mem_padded {zeros n : Nat} :
    ∀ d ∈ List.replicate zeros '0' ++ decimal n, d.isDigit = true := by
  intro d hd
  obtain hd | hd := List.mem_append.mp hd
  · rw [List.eq_of_mem_replicate hd]
    decide
  · exact Nat.isDigit_of_mem_toDigits (by decide) (by decide) hd

/-- The digits of a number are read as that number if it is below the limit, however many zeros
stand before them, and as nothing else. -/
theorem isNumeral_padded_iff {limit zeros n m : Nat} :
    IsNumeral limit (List.replicate zeros '0' ++ decimal n) m ↔ m = n ∧ n < limit := by
  have hne : List.replicate zeros '0' ++ decimal n ≠ [] :=
    List.append_ne_nil_of_right_ne_nil _ Nat.toDigits_ne_nil
  have hvalue : digitsValue (List.replicate zeros '0' ++ decimal n) = n := by
    rw [digitsValue_append, digitsValue_zeros, digitsValue_decimal]
    simp
  rw [isNumeral_iff_of_digits hne isDigit_of_mem_padded, hvalue]
  exact and_congr_right fun h => by rw [h]

theorem isWord_repr (n : UInt64) : IsWord n.toNat.repr n := by
  have hdecimal : n.toNat.repr.toList = List.replicate 0 '0' ++ decimal n.toNat := Nat.toList_repr
  rw [IsWord, hdecimal, isNumeral_padded_iff]
  exact ⟨rfl, n.toNat_lt⟩

end CardTelemetry.Text
