import CardTelemetry.Proofs.Job.Outcome

/-!
# Jobs on a clock

A job that is run on a clock is begun at some time, and its deadline is a time of that clock. Steps
are taken one after the other as long as the deadline has not passed. How such a job ends is what
its deadline alone says of it, whenever it is begun. The clock counts milliseconds and does not
overflow.
-/

namespace CardTelemetry.Job

variable {α β : Type}

/-! ### Time taken -/

theorem duration_append (as bs : List Step) :
    duration (as ++ bs) = duration as + duration bs := by
  induction as with
  | nil => simp [duration]
  | cons s rest ih => rw [List.cons_append, duration, duration, ih, Nat.add_assoc]

theorem elapsed_andThen_of_ok {j : Job α} {a : α} (h : j.outcome = .ok a) (next : α → Job β) :
    (j.andThen next).elapsed = j.elapsed + (next a).elapsed := by
  rw [elapsed, steps_andThen_of_ok h, duration_append]
  rfl

theorem elapsed_andThen_of_error {j : Job α} {f : Fault} (h : j.outcome = .error f)
    (next : α → Job β) : (j.andThen next).elapsed = j.elapsed := by
  rw [elapsed, steps_andThen_of_error h]
  rfl

/-- A deadline leaves a job as it is, or takes its place. -/
theorem outcome_within (millis : Nat) (j : Job α) :
    (within millis j).outcome =
      if j.elapsed ≤ millis then j.outcome
      else .error (.timeout (UInt64.ofNat millis).toNat) := by
  unfold within
  split <;> rfl

/-! ### Steps on a clock -/

theorem clockAfter_eq {deadline now : Nat} (h : now ≤ deadline) (steps : List Step) :
    clockAfter deadline now steps =
      if now + duration steps ≤ deadline then some (now + duration steps) else none := by
  induction steps generalizing now with
  | nil =>
    rw [clockAfter, duration, Nat.add_zero, if_pos h]
  | cons s rest ih =>
    rw [clockAfter, duration, ← Nat.add_assoc]
    by_cases hs : now + s.millis ≤ deadline
    · rw [if_pos hs, ih hs]
    · rw [if_neg hs, if_neg (by omega)]

/-- **How a job ends does not depend on when it is begun.** -/
theorem runAt_outcome (now millis : Nat) (j : Job α) :
    (runAt now millis j).2 = (within millis j).outcome := by
  rw [runAt, clockAfter_eq (Nat.le_add_right now millis), outcome_within]
  by_cases htime : j.elapsed ≤ millis
  · have hclock : now + duration j.steps ≤ now + millis := Nat.add_le_add_left htime now
    rw [if_pos htime, if_pos hclock]
  · have hclock : ¬ now + duration j.steps ≤ now + millis := by
      rw [Nat.add_le_add_iff_left]
      exact htime
    rw [if_neg htime, if_neg hclock]

/-- A job is over when it has ended, and at its deadline at the latest. -/
theorem runAt_time (now millis : Nat) (j : Job α) :
    (runAt now millis j).1 = now + min j.elapsed millis := by
  rw [runAt, clockAfter_eq (Nat.le_add_right now millis), ← elapsed]
  by_cases htime : j.elapsed ≤ millis
  · rw [if_pos (Nat.add_le_add_left htime now), Nat.min_eq_left htime]
  · rw [if_neg (by omega), Nat.min_eq_right (Nat.le_of_not_le htime)]

end CardTelemetry.Job
