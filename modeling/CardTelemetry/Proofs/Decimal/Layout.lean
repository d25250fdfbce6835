import CardTelemetry.Binary64.Decimal
import Mathlib.Data.Nat.Digits.Defs

/-!
# The characters of a number

In the positional layout a number is digits, a point and a sign; the scientific layout has an
exponent's mark besides, and a double that is not finite is a word of letters. All of these stand
above the blank, so a double's text has no blank in it and no control character. That there is one
point and one sign at most is not said.
-/

namespace CardTelemetry

namespace Decimal

/-- A digit, a point or a sign. -/
def IsMark (c : Char) : Prop := c.isDigit = true ∨ c = '.' ∨ c = '-'

theorem isDigit_of_mem_decimal {n : Nat} {c : Char} (h : c ∈ Text.decimal n) : c.isDigit = true :=
  Nat.isDigit_of_mem_toDigits (by decide) (by decide) h

theorem isDigit_of_mem_zeros {n : Nat} {c : Char} (h : c ∈ zeros n) : c.isDigit = true := by
  rw [List.eq_of_mem_replicate h]
  decide

theorem isMark_of_mem_sign {d : Decimal} {c : Char} (h : c ∈ d.sign) : IsMark c := by
  unfold sign at h
  split at h
  · exact .inr (.inr (List.mem_singleton.mp h))
  · cases h

theorem isMark_of_mem_unsigned {d : Decimal} {c : Char} (h : c ∈ d.unsignedPositional) :
    IsMark c := by
  unfold unsignedPositional at h
  dsimp only at h
  split at h
  · rcases List.mem_append.mp h with hdigit | hzero
    · exact .inl (isDigit_of_mem_decimal hdigit)
    · exact .inl (isDigit_of_mem_zeros hzero)
  · split at h
    · rcases List.mem_append.mp h with hwhole | hpoint
      · exact .inl (isDigit_of_mem_decimal (List.mem_of_mem_take hwhole))
      · rcases List.mem_cons.mp hpoint with hpoint | hfraction
        · exact .inr (.inl hpoint)
        · exact .inl (isDigit_of_mem_decimal (List.mem_of_mem_drop hfraction))
    · simp only [List.mem_cons, List.mem_append] at h
      rcases h with rfl | rfl | hzero | hdigit
      · exact .inl (by decide)
      · exact .inr (.inl rfl)
      · exact .inl (isDigit_of_mem_zeros hzero)
      · exact .inl (isDigit_of_mem_decimal hdigit)

theorem isMark_of_mem_positional {d : Decimal} {c : Char} (h : c ∈ d.positional) : IsMark c := by
  rcases List.mem_append.mp h with hsign | hplaces
  · exact isMark_of_mem_sign hsign
  · exact isMark_of_mem_unsigned hplaces

theorem isMark_of_mem_pointed {ds : List Char} (hds : ∀ c ∈ ds, c.isDigit = true) {c : Char}
    (h : c ∈ pointed ds) : IsMark c := by
  unfold pointed at h
  split at h
  · cases h
  · exact .inl (hds c h)
  · rcases List.mem_cons.mp h with rfl | hrest
    · exact .inl (hds c List.mem_cons_self)
    · rcases List.mem_cons.mp hrest with rfl | hrest
      · exact .inr (.inl rfl)
      · exact .inl (hds c (List.mem_cons_of_mem _ hrest))

/-- The scientific layout has an `e` besides, and a sign for the exponent. -/
theorem isMark_of_mem_scientific {d : Decimal} {c : Char} (h : c ∈ d.scientific) :
    IsMark c ∨ c = 'e' ∨ c = '+' := by
  rcases List.mem_append.mp h with hmantissa | hexponent
  · left
    rcases List.mem_append.mp hmantissa with hsign | hpointed
    · exact isMark_of_mem_sign hsign
    · exact isMark_of_mem_pointed (fun _ hc => isDigit_of_mem_decimal hc) hpointed
  · rcases List.mem_cons.mp hexponent with rfl | hexponent
    · exact .inr (.inl rfl)
    · rcases List.mem_cons.mp hexponent with hmark | hdigits
      · split at hmark
        · exact .inl (.inr (.inr hmark))
        · exact .inr (.inr hmark)
      · exact .inl (.inl (isDigit_of_mem_decimal hdigits))

theorem isMark_of_mem_jsonLayout {d : Decimal} {c : Char} (h : c ∈ Binary64.jsonLayout d) :
    IsMark c ∨ c = 'e' ∨ c = '+' := by
  unfold Binary64.jsonLayout at h
  split at h
  · exact isMark_of_mem_scientific h
  · left
    split at h
    · rcases List.mem_append.mp h with hplaces | hzero
      · exact isMark_of_mem_positional hplaces
      · simp only [List.mem_cons, List.not_mem_nil, or_false] at hzero
        rcases hzero with rfl | rfl
        · exact .inr (.inl rfl)
        · exact .inl (by decide)
    · exact isMark_of_mem_positional h

/-- Marks stand above the blank. -/
theorem IsMark.lt_toNat {c : Char} (h : IsMark c) : 0x20 < c.toNat := by
  rcases h with hdigit | rfl | rfl
  · simp only [Char.isDigit, Bool.and_eq_true, decide_eq_true_eq, UInt32.le_iff_toNat_le] at hdigit
    have hzero : 48 ≤ c.toNat := hdigit.1
    omega
  · decide
  · decide

end Decimal

theorem Binary64.lt_toNat_of_mem_expose {x : Binary64} {c : Char} (h : c ∈ x.expose) :
    0x20 < c.toNat := by
  unfold expose at h
  split at h
  · exact (Decimal.isMark_of_mem_positional h).lt_toNat
  · have hwords : (("NaN".toList ++ "-inf".toList ++ "inf".toList).all fun c =>
        0x20 < c.toNat) = true := by
      decide
    have hmem : c ∈ "NaN".toList ++ "-inf".toList ++ "inf".toList := by
      split at h
      · exact List.mem_append_left _ (List.mem_append_left _ h)
      · split at h
        · exact List.mem_append_left _ (List.mem_append_right _ h)
        · exact List.mem_append_right _ h
    exact of_decide_eq_true (List.all_eq_true.mp hwords c hmem)

/-- A double's text is one word. -/
theorem Binary64.space_not_mem_expose (x : Binary64) : ' ' ∉ x.expose := by
  intro h
  exact absurd (lt_toNat_of_mem_expose h) (by decide)

theorem Binary64.newline_not_mem_expose (x : Binary64) : '\n' ∉ x.expose := by
  intro h
  exact absurd (lt_toNat_of_mem_expose h) (by decide)

end CardTelemetry
