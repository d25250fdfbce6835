import CardTelemetry.Proofs.Job.Outcome

/-!
# How jobs fail

A job made of jobs fails with what the first part to fail fails with. Parts may be given by a
list, as where each member has a job of its own, or by the steps of one job; the failures of
both are described by `FirstFailure`, which speaks of what fails and not of jobs.
-/

namespace CardTelemetry

section FirstFailure

variable {α β ε : Type} {Fails : α → ε → Prop} {as : List α} {e : ε}

/-- The first member of a list for which something fails, and what it fails with. -/
def FirstFailure (Fails : α → ε → Prop) (as : List α) (e : ε) : Prop :=
  ∃ before a after, as = before ++ a :: after ∧ Fails a e ∧ ∀ b ∈ before, ∀ e', ¬ Fails b e'

theorem not_firstFailure_nil : ¬ FirstFailure Fails [] e := by
  intro h
  obtain ⟨before, a, after, has, -⟩ := h
  exact List.append_ne_nil_of_right_ne_nil before (List.cons_ne_nil a after) has.symm

theorem firstFailure_cons {a : α} :
    FirstFailure Fails (a :: as) e ↔
      Fails a e ∨ (∀ e', ¬ Fails a e') ∧ FirstFailure Fails as e := by
  constructor
  · intro h
    obtain ⟨before, b, after, has, hb, hbefore⟩ := h
    cases before with
    | nil =>
      obtain ⟨rfl, rfl⟩ := List.cons.inj has
      exact .inl hb
    | cons c before =>
      obtain ⟨rfl, rfl⟩ := List.cons.inj has
      have ha := hbefore a List.mem_cons_self
      exact .inr ⟨ha, before, b, after, rfl, hb,
        fun c hc => hbefore c (List.mem_cons_of_mem a hc)⟩
  · intro h
    obtain ha | ⟨ha, before, b, after, rfl, hb, hbefore⟩ := h
    · exact ⟨[], a, as, rfl, ha, by simp⟩
    · refine ⟨a :: before, b, after, rfl, hb, ?_⟩
      intro c hc
      obtain rfl | hc := List.mem_cons.mp hc
      · exact ha
      · exact hbefore c hc

/-- Of two lists the second counts only if nothing fails in the first. -/
theorem firstFailure_append {bs : List α} :
    FirstFailure Fails (as ++ bs) e ↔
      FirstFailure Fails as e ∨ (∀ e', ¬ FirstFailure Fails as e') ∧ FirstFailure Fails bs e := by
  induction as with
  | nil => simp [not_firstFailure_nil]
  | cons a as ih =>
    have hnone : (∀ e', ¬ FirstFailure Fails (a :: as) e') ↔
        (∀ e', ¬ Fails a e') ∧ ∀ e', ¬ FirstFailure Fails as e' := by
      simp only [firstFailure_cons, not_or, not_and, forall_and]
      exact and_congr_right fun ha => forall_congr' fun e' => by simp [ha]
    rw [List.cons_append, firstFailure_cons, firstFailure_cons, ih, hnone, or_assoc, and_or_left,
      and_assoc]

theorem firstFailure_singleton {a : α} : FirstFailure Fails [a] e ↔ Fails a e := by
  rw [firstFailure_cons, or_iff_left]
  intro h
  exact not_firstFailure_nil h.2

theorem firstFailure_congr {Fails' : α → ε → Prop}
    (h : ∀ a ∈ as, ∀ e, Fails a e ↔ Fails' a e) :
    FirstFailure Fails as e ↔ FirstFailure Fails' as e := by
  induction as with
  | nil => exact iff_of_false not_firstFailure_nil not_firstFailure_nil
  | cons a as ih =>
    have ha := h a List.mem_cons_self
    have has := ih fun b hb => h b (List.mem_cons_of_mem a hb)
    simp only [firstFailure_cons, ha, has]

theorem firstFailure_map {g : β → α} {bs : List β} :
    FirstFailure Fails (bs.map g) e ↔ FirstFailure (fun b e => Fails (g b) e) bs e := by
  induction bs with
  | nil => exact iff_of_false not_firstFailure_nil not_firstFailure_nil
  | cons b bs ih => rw [List.map_cons, firstFailure_cons, firstFailure_cons, ih]

theorem firstFailure_filter {p : α → Bool} :
    FirstFailure Fails (as.filter p) e ↔
      FirstFailure (fun a e => p a = true ∧ Fails a e) as e := by
  induction as with
  | nil => exact iff_of_false not_firstFailure_nil not_firstFailure_nil
  | cons a as ih =>
    rw [firstFailure_cons, List.filter_cons]
    by_cases hp : p a = true
    · simp only [hp, if_true, firstFailure_cons, ih, true_and]
    · simp only [hp, if_false, ih, false_and, not_false_eq_true, implies_true, true_and,
        false_or, Bool.false_eq_true]

/-- What fails first is a failure of some member. -/
theorem FirstFailure.exists_mem (h : FirstFailure Fails as e) : ∃ a ∈ as, Fails a e := by
  obtain ⟨before, a, after, rfl, ha, -⟩ := h
  exact ⟨a, List.mem_append_right before List.mem_cons_self, ha⟩

/-- Where some member fails, one of them fails first. -/
theorem exists_firstFailure_iff :
    (∃ e, FirstFailure Fails as e) ↔ ∃ a ∈ as, ∃ e, Fails a e := by
  constructor
  · intro h
    obtain ⟨e, h⟩ := h
    obtain ⟨a, ha, hfails⟩ := h.exists_mem
    exact ⟨a, ha, e, hfails⟩
  · intro h
    induction as with
    | nil => simp at h
    | cons a as ih =>
      by_cases ha : ∃ e, Fails a e
      · obtain ⟨e, ha⟩ := ha
        exact ⟨e, firstFailure_cons.mpr (.inl ha)⟩
      · obtain ⟨b, hb, hfails⟩ := h
        obtain rfl | hb := List.mem_cons.mp hb
        · exact absurd hfails ha
        · obtain ⟨e, he⟩ := ih ⟨b, hb, hfails⟩
          exact ⟨e, firstFailure_cons.mpr (.inr ⟨fun e' h => ha ⟨e', h⟩, he⟩)⟩

/-- In a list that goes strictly upwards, what stands before a member is what comes before it. -/
theorem firstFailure_of_pairwise {R : α → α → Prop} (hasymm : ∀ a b, R a b → ¬ R b a)
    (has : as.Pairwise R) :
    FirstFailure Fails as e ↔
      ∃ a ∈ as, Fails a e ∧ ∀ b ∈ as, R b a → ∀ e', ¬ Fails b e' := by
  constructor
  · intro h
    obtain ⟨before, a, after, rfl, ha, hbefore⟩ := h
    refine ⟨a, List.mem_append_right before List.mem_cons_self, ha, ?_⟩
    intro b hb hba
    obtain hb | hb := List.mem_append.mp hb
    · exact hbefore b hb
    · obtain rfl | hb := List.mem_cons.mp hb
      · exact absurd hba (hasymm b b hba)
      · have hab := List.rel_of_pairwise_cons (List.pairwise_append.mp has).2.1 hb
        exact absurd hba (hasymm a b hab)
  · intro h
    obtain ⟨a, ha, hfails, hbefore⟩ := h
    obtain ⟨before, after, rfl⟩ := List.append_of_mem ha
    refine ⟨before, a, after, rfl, hfails, ?_⟩
    intro b hb
    have hba := (List.pairwise_append.mp has).2.2 b hb a List.mem_cons_self
    exact hbefore b (List.mem_append_left _ hb) hba

end FirstFailure

namespace Job

variable {α β : Type} {f : Fault}

/-- Of two results in sequence the second counts only if there is a first. -/
theorem bind_eq_error_iff {r : Except Fault α} {next : α → Except Fault β} {P : Fault → Prop}
    {Q : Prop} (hr : ∀ g, r = .error g ↔ P g) (hnext : ∀ a, r = .ok a → (next a = .error f ↔ Q)) :
    r.bind next = .error f ↔ P f ∨ (∀ g, ¬ P g) ∧ Q := by
  cases h : r with
  | error g =>
    have hg : P g := (hr g).mp h
    have hP : P f ↔ g = f := by rw [← hr f, h, Except.error.injEq]
    show Except.error g = Except.error f ↔ _
    rw [Except.error.injEq, hP]
    constructor
    · exact .inl
    · intro hcases
      obtain heq | ⟨hnone, -⟩ := hcases
      · exact heq
      · exact absurd hg (hnone g)
  | ok a =>
    have hnone (g : Fault) : ¬ P g := by
      rw [← hr g, h]
      exact fun heq => by cases heq
    show next a = .error f ↔ _
    rw [hnext a h]
    constructor
    · exact fun hQ => .inr ⟨hnone, hQ⟩
    · intro hcases
      obtain hP | ⟨-, hQ⟩ := hcases
      · exact absurd hP (hnone f)
      · exact hQ

theorem outcome_andThen_eq_error_iff {j : Job α} {next : α → Job β} {P : Fault → Prop} {Q : Prop}
    (hj : ∀ g, j.outcome = .error g ↔ P g)
    (hnext : ∀ a, j.outcome = .ok a → ((next a).outcome = .error f ↔ Q)) :
    (j.andThen next).outcome = .error f ↔ P f ∨ (∀ g, ¬ P g) ∧ Q := by
  rw [outcome_andThen]
  exact bind_eq_error_iff hj hnext

/-- A job that ends by naming its result does not fail there. -/
theorem outcome_andThen_done_eq_error {j : Job α} {g : α → β} :
    (j.andThen fun a => done (g a)).outcome = .error f ↔ j.outcome = .error f := by
  rw [outcome_andThen]
  cases j.outcome with
  | error e => simp [Except.bind]
  | ok a => simp [Except.bind]

/-- A job for each member fails where the first of them fails. -/
theorem outcome_each_eq_error_iff {job : α → Job β} {as : List α} :
    (each job as).outcome = .error f ↔
      FirstFailure (fun a g => (job a).outcome = .error g) as f := by
  induction as with
  | nil =>
    refine iff_of_false ?_ not_firstFailure_nil
    intro h
    cases h
  | cons a as ih =>
    rw [firstFailure_cons, each]
    apply outcome_andThen_eq_error_iff (fun g => Iff.rfl)
    intro b _
    rw [outcome_andThen_done_eq_error, ih]

end Job

end CardTelemetry
