import CardTelemetry.Proofs.Text.Utf8
import CardTelemetry.Text.Order
import Mathlib.Data.List.Lex

/-!
# Texts are totally ordered

The order by UTF-8 bytes is total, and two texts that come neither before the other are the
same, as texts with the same bytes are.
-/

namespace CardTelemetry.Text

open Utf8 (bytes)

theorem notAfter_iff {a b : String} : notAfter a b = true ↔ bytes a ≤ bytes b := by
  rw [notAfter, decide_eq_true_iff]

theorem before_iff {a b : String} : before a b = true ↔ bytes a < bytes b := by
  rw [before, decide_eq_true_iff]

theorem notAfter_trans {a b c : String} (hab : notAfter a b = true) (hbc : notAfter b c = true) :
    notAfter a c = true := by
  rw [notAfter_iff] at *
  exact List.le_trans hab hbc

theorem notAfter_total (a b : String) : notAfter a b = true ∨ notAfter b a = true := by
  rw [notAfter_iff, notAfter_iff]
  exact List.le_total (bytes a) (bytes b)

/-- Different texts in order are strictly in order. -/
theorem before_of_notAfter {a b : String} (h : notAfter a b = true) (hne : a ≠ b) :
    before a b = true := by
  rw [notAfter_iff] at h
  rw [before_iff]
  by_contra hlt
  have hba : bytes b ≤ bytes a := List.not_lt.mp hlt
  exact hne (Utf8.bytes_injective (List.le_antisymm h hba))

theorem before_trans {a b c : String} (hab : before a b = true) (hbc : before b c = true) :
    before a c = true := by
  rw [before_iff] at *
  exact List.lt_trans hab hbc

theorem ne_of_before {a b : String} (h : before a b = true) : a ≠ b := by
  rintro rfl
  rw [before_iff] at h
  exact List.lt_irrefl _ h

theorem before_of_not_before {a b : String} (h : ¬ before a b = true) (hne : a ≠ b) :
    before b a = true :=
  before_of_notAfter ((notAfter_total a b).resolve_left fun hab => h (before_of_notAfter hab hne))
    hne.symm

end CardTelemetry.Text
