import CardTelemetry.Job
import Mathlib.Data.List.Forall2

/-!
# Jobs made of jobs

A sequence of jobs ends well exactly when its parts do, and a job for each member of a list
ends with the parts' results in order. What holds of every step of the parts holds of every
step of the whole; in particular parts that do not wait make a whole that takes no time.
-/

namespace CardTelemetry.Job

variable {α β : Type}

@[simp] theorem bind_eq_andThen (j : Job α) (next : α → Job β) : j >>= next = j.andThen next := rfl

@[simp] theorem pure_eq_done (a : α) : (pure a : Job α) = done a := rfl

theorem done_andThen (a : α) (next : α → Job β) : (done a).andThen next = next a := rfl

@[simp] theorem outcome_note (e : Log.Event) : (note e).outcome = .ok () := rfl

theorem outcome_andThen_of_ok {j : Job α} {a : α} (h : j.outcome = .ok a) (next : α → Job β) :
    (j.andThen next).outcome = (next a).outcome := by
  rw [outcome_andThen, h]
  rfl

theorem outcome_andThen_eq_ok {j : Job α} {next : α → Job β} {b : β} :
    (j.andThen next).outcome = .ok b ↔ ∃ a, j.outcome = .ok a ∧ (next a).outcome = .ok b := by
  rw [outcome_andThen]
  cases h : j.outcome with
  | ok a => simp [Except.bind]
  | error f => simp [Except.bind]

/-- A job for each member ends well exactly when all of them do. -/
theorem outcome_each_eq_ok {f : α → Job β} {as : List α} {bs : List β} :
    (each f as).outcome = .ok bs ↔ List.Forall₂ (fun a b => (f a).outcome = .ok b) as bs := by
  induction as generalizing bs with
  | nil => cases bs <;> simp [each]
  | cons a as ih =>
    simp only [each, outcome_andThen_eq_ok, outcome_done, ih]
    constructor
    · rintro ⟨b, hb, bs', hbs, heq⟩
      cases heq
      exact .cons hb hbs
    · intro h
      cases h with
      | cons hb hbs => exact ⟨_, hb, _, hbs, rfl⟩

/-- Jobs for the members all end well exactly when each of them can. -/
theorem exists_outcome_each_eq_ok {f : α → Job β} {as : List α} :
    (∃ bs, (each f as).outcome = .ok bs) ↔ ∀ a ∈ as, ∃ b, (f a).outcome = .ok b := by
  simp only [outcome_each_eq_ok]
  induction as with
  | nil => simp
  | cons a as ih =>
    rw [List.forall_mem_cons, ← ih]
    constructor
    · intro h
      obtain ⟨bs, h⟩ := h
      cases h with
      | cons hb hbs => exact ⟨⟨_, hb⟩, _, hbs⟩
    · intro h
      obtain ⟨⟨b, hb⟩, bs, hbs⟩ := h
      exact ⟨b :: bs, .cons hb hbs⟩

theorem outcome_each_eq_ok_congr {f g : α → Job β} {as : List α} {bs : List β}
    (h : ∀ a ∈ as, ∀ b, (f a).outcome = .ok b ↔ (g a).outcome = .ok b) :
    (each f as).outcome = .ok bs ↔ (each g as).outcome = .ok bs := by
  rw [outcome_each_eq_ok, outcome_each_eq_ok]
  induction as generalizing bs with
  | nil => cases bs <;> simp
  | cons a as ih =>
    rw [List.forall_mem_cons] at h
    cases bs with
    | nil => simp
    | cons b bs => rw [List.forall₂_cons, List.forall₂_cons, h.1, ih h.2]

section Members

variable {R : α → β → Prop} {as : List α} {bs : List β}

theorem exists_right_of_mem (h : List.Forall₂ R as bs) {a : α} (ha : a ∈ as) :
    ∃ b ∈ bs, R a b := by
  induction h with
  | nil => cases ha
  | cons hab _ ih =>
    rcases List.mem_cons.mp ha with rfl | ha
    · exact ⟨_, List.mem_cons_self, hab⟩
    · obtain ⟨b, hb, hab⟩ := ih ha
      exact ⟨b, List.mem_cons_of_mem _ hb, hab⟩

theorem exists_left_of_mem (h : List.Forall₂ R as bs) {b : β} (hb : b ∈ bs) :
    ∃ a ∈ as, R a b := by
  obtain ⟨a, ha, hab⟩ := exists_right_of_mem h.flip hb
  exact ⟨a, ha, hab⟩

theorem map_eq_of_forall₂ {γ : Type} {g : β → γ} {k : α → γ} (hR : ∀ a b, R a b → g b = k a)
    (h : List.Forall₂ R as bs) : bs.map g = as.map k := by
  induction h with
  | nil => rfl
  | cons hab _ ih => rw [List.map_cons, List.map_cons, hR _ _ hab, ih]

end Members

/-- Every step of a job has a property. -/
def AllSteps (P : Step → Prop) (j : Job α) : Prop := ∀ s ∈ j.steps, P s

section AllSteps

variable {P Q : Step → Prop}

theorem allSteps_done (a : α) : (done a).AllSteps P := by simp [AllSteps, done]

theorem allSteps_fail (f : Fault) : (fail f : Job α).AllSteps P := by simp [AllSteps, fail]

theorem allSteps_ofExcept (r : Except Fault α) : (ofExcept r).AllSteps P := by
  simp [AllSteps, ofExcept]

theorem AllSteps.mono {j : Job α} (h : j.AllSteps P) (hPQ : ∀ s, P s → Q s) : j.AllSteps Q :=
  fun s hs => hPQ s (h s hs)

theorem AllSteps.andThen {j : Job α} {next : α → Job β} (hj : j.AllSteps P)
    (hnext : ∀ a, (next a).AllSteps P) : (j.andThen next).AllSteps P := by
  intro s hs
  cases h : j.outcome with
  | error f =>
    rw [steps_andThen_of_error h] at hs
    exact hj s hs
  | ok a =>
    rw [steps_andThen_of_ok h] at hs
    rcases List.mem_append.mp hs with hs | hs
    · exact hj s hs
    · exact hnext a s hs

theorem allSteps_each {f : α → Job β} (h : ∀ a, (f a).AllSteps P) (as : List α) :
    (each f as).AllSteps P := by
  induction as with
  | nil => exact allSteps_done []
  | cons a as ih => exact (h a).andThen fun _ => ih.andThen fun _ => allSteps_done _

theorem elapsed_eq_zero {j : Job α} (h : j.AllSteps fun s => s.millis = 0) : j.elapsed = 0 := by
  have hduration : ∀ steps : List Step, (∀ s ∈ steps, s.millis = 0) → duration steps = 0 := by
    intro steps
    induction steps with
    | nil => exact fun _ => rfl
    | cons s rest ih =>
      intro hsteps
      rw [duration, hsteps s List.mem_cons_self,
        ih fun t ht => hsteps t (List.mem_cons_of_mem _ ht)]
  exact hduration j.steps h

end AllSteps

end CardTelemetry.Job
