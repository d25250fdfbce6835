import CardTelemetry.Proofs.Job.Outcome

/-!
# Jobs that end alike

Two jobs end alike if both fail with the same fault or both end well with results that are
related. Sequences of jobs that end alike part by part do so as a whole. Their steps are not
compared, and neither is the time they take.
-/

namespace CardTelemetry

section Alike

variable {α β γ δ : Type}

/-- Two outcomes are the same fault, or results that are related. -/
def Alike (R : α → β → Prop) : Except Fault α → Except Fault β → Prop
  | .ok a, .ok b => R a b
  | .error f, .error g => f = g
  | _, _ => False

theorem alike_iff {R : α → β → Prop} {x : Except Fault α} {y : Except Fault β} :
    Alike R x y ↔ (∃ f, x = .error f ∧ y = .error f) ∨ ∃ a b, x = .ok a ∧ y = .ok b ∧ R a b := by
  cases x <;> cases y <;> simp [Alike, eq_comm]

theorem Alike.mono {R S : α → β → Prop} {x : Except Fault α} {y : Except Fault β}
    (h : Alike R x y) (hRS : ∀ a b, x = .ok a → y = .ok b → R a b → S a b) : Alike S x y := by
  cases x with
  | error f =>
    cases y with
    | error g => exact h
    | ok b => exact h
  | ok a =>
    cases y with
    | error g => exact h
    | ok b => exact hRS a b rfl rfl h

/-- An outcome is alike to itself in whatever holds of its result. -/
theorem alike_of_eq {R : α → α → Prop} {x y : Except Fault α} (h : y = x)
    (hR : ∀ a, x = .ok a → R a a) : Alike R x y := by
  subst h
  cases y with
  | error f => exact rfl
  | ok a => exact hR a rfl

theorem Alike.bind {R : α → β → Prop} {S : γ → δ → Prop} {x : Except Fault α}
    {y : Except Fault β} {next : α → Except Fault γ} {next' : β → Except Fault δ}
    (h : Alike R x y)
    (hnext : ∀ a b, x = .ok a → y = .ok b → R a b → Alike S (next a) (next' b)) :
    Alike S (x.bind next) (y.bind next') := by
  obtain ⟨f, rfl, rfl⟩ | ⟨a, b, rfl, rfl, hab⟩ := alike_iff.mp h
  · exact rfl
  · exact hnext a b rfl rfl hab

theorem Job.alike_andThen {R : α → β → Prop} {S : γ → δ → Prop} {j : Job α} {j' : Job β}
    {next : α → Job γ} {next' : β → Job δ} (h : Alike R j.outcome j'.outcome)
    (hnext : ∀ a b, j.outcome = .ok a → j'.outcome = .ok b → R a b →
      Alike S (next a).outcome (next' b).outcome) :
    Alike S (j.andThen next).outcome (j'.andThen next').outcome := by
  rw [outcome_andThen, outcome_andThen]
  exact h.bind hnext

end Alike

end CardTelemetry
