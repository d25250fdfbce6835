import CardTelemetry.Files.Path
import CardTelemetry.Proofs.Text.Lines

/-!
# The last name of a path

Which name a path ends with, said of its bytes. Slashes at its end, and steps to `.` after a slash,
lead nowhere; what stands before them back to another slash is the name, unless it is `.` or `..`.
Whether anything stands there is not asked.
-/

namespace CardTelemetry.Files.Path

/-- Slashes, each alone or with a dot after it. -/
def IsTrail (tail : Path) : Prop :=
  ∃ steps : List Name, (∀ s ∈ steps, s = [] ∨ s = here) ∧ tail = steps.flatMap (slash :: ·)

/-- A path ends with a name, apart from a trail after it. -/
structure IsLastName (p : Path) (n : Name) : Prop where
  ne_nil : n ≠ []
  slash_not_mem : slash ∉ n
  ne_here : n ≠ here
  ne_up : n ≠ up
  stands : ∃ before tail, p = before ++ n ++ tail ∧
    (before = [] ∨ before.getLast? = some slash) ∧ IsTrail tail

/-- The last member with a property has none with it behind it. -/
theorem getLast?_filter_eq_some_iff {α : Type} {holds : α → Bool} {as : List α} {a : α} :
    (as.filter holds).getLast? = some a ↔
      holds a = true ∧ ∃ before after, as = before ++ a :: after ∧ ∀ b ∈ after, ¬ holds b = true := by
  rw [List.getLast?_filter, List.find?_eq_some_iff_append]
  refine and_congr_right fun _ => ?_
  constructor
  · intro h
    obtain ⟨later, earlier, heq, hnone⟩ := h
    have has : as = earlier.reverse ++ a :: later.reverse := by
      rw [← List.reverse_reverse as, heq]
      simp
    refine ⟨earlier.reverse, later.reverse, has, ?_⟩
    intro b hb
    simpa using hnone b (List.mem_reverse.mp hb)
  · intro h
    obtain ⟨before, after, rfl, hnone⟩ := h
    refine ⟨after.reverse, before.reverse, by simp, ?_⟩
    intro b hb
    simpa using hnone b (List.mem_reverse.mp hb)

theorem splitOn_append_steps {n : Name} (hn : slash ∉ n) {steps : List Name}
    (h : ∀ s ∈ steps, slash ∉ s) : (n ++ steps.flatMap (slash :: ·)).splitOn slash = n :: steps := by
  induction steps generalizing n with
  | nil =>
    rw [List.flatMap_nil, List.append_nil]
    exact List.splitOn_eq_singleton hn
  | cons s steps ih =>
    obtain ⟨hs, hsteps⟩ := List.forall_mem_cons.mp h
    rw [List.flatMap_cons, List.cons_append, List.splitOn_append_cons_self_of_not_mem hn, ih hs hsteps]

theorem intercalate_cons (n : Name) (steps : List Name) :
    [slash].intercalate (n :: steps) = n ++ steps.flatMap (slash :: ·) := by
  induction steps generalizing n with
  | nil => simp
  | cons s steps ih =>
    rw [List.intercalate_cons_cons, ih, List.flatMap_cons, List.append_assoc]
    rfl

/-- A path ends with a name and a trail exactly when the pieces between its slashes do. -/
theorem stands_iff {p : Path} {n : Name} :
    (slash ∉ n ∧ ∃ before tail, p = before ++ n ++ tail ∧
        (before = [] ∨ before.getLast? = some slash) ∧ IsTrail tail) ↔
      ∃ earlier steps, p.splitOn slash = earlier ++ n :: steps ∧ ∀ s ∈ steps, s = [] ∨ s = here := by
  constructor
  · intro h
    obtain ⟨hn, before, tail, rfl, hbefore, steps, hsteps, rfl⟩ := h
    have hsplit : (n ++ steps.flatMap (slash :: ·)).splitOn slash = n :: steps := by
      apply splitOn_append_steps hn
      intro s hs
      obtain rfl | rfl := hsteps s hs <;> decide
    obtain rfl | hlast := hbefore
    · exact ⟨[], steps, hsplit, hsteps⟩
    · obtain ⟨above, rfl⟩ := List.getLast?_eq_some_iff.mp hlast
      refine ⟨above.splitOn slash, steps, ?_, hsteps⟩
      rw [List.append_assoc, List.append_assoc, List.singleton_append, List.splitOn_append_cons_self,
        hsplit]
  · intro h
    obtain ⟨earlier, steps, hsplit, hsteps⟩ := h
    have hn : slash ∉ n := Text.not_mem_of_mem_splitOn n (by rw [hsplit]; simp)
    have hp : p = [slash].intercalate (earlier ++ n :: steps) := by
      rw [← hsplit, List.intercalate_splitOn]
    refine ⟨hn, ?_⟩
    cases earlier with
    | nil => exact ⟨[], _, hp.trans (intercalate_cons n steps), .inl rfl, steps, hsteps, rfl⟩
    | cons m earlier =>
      refine ⟨m ++ earlier.flatMap (slash :: ·) ++ [slash], _, ?_, .inr (by simp), steps, hsteps, rfl⟩
      rw [hp, List.cons_append, intercalate_cons, List.flatMap_append, List.flatMap_cons]
      simp

/-- The last name of a path is what stands at its end. -/
theorem fileName?_eq_some_iff {p : Path} {n : Name} : p.fileName? = some n ↔ IsLastName p n := by
  have hlast : fileName? p = some n ↔
      ((p.splitOn slash).filter fun m => m != [] && m != here).getLast? = some n ∧ n ≠ up := by
    unfold fileName?
    split
    · rename_i m hm
      rw [hm]
      by_cases hup : m = up
      · subst hup
        simp [eq_comm]
      · rw [if_neg hup]
        constructor
        · intro h
          exact ⟨h, Option.some.inj h ▸ hup⟩
        · exact And.left
    · rename_i hm
      simp [hm]
  have hpieces : ((p.splitOn slash).filter fun m => m != [] && m != here).getLast? = some n ↔
      (n ≠ [] ∧ n ≠ here) ∧
        ∃ earlier steps, p.splitOn slash = earlier ++ n :: steps ∧ ∀ s ∈ steps, s = [] ∨ s = here := by
    rw [getLast?_filter_eq_some_iff]
    simp only [Bool.and_eq_true, bne_iff_ne, not_and_or, ne_eq, not_not]
  rw [hlast, hpieces, ← stands_iff]
  constructor
  · intro h
    obtain ⟨⟨⟨hne, hhere⟩, hslash, hstands⟩, hup⟩ := h
    exact ⟨hne, hslash, hhere, hup, hstands⟩
  · intro h
    obtain ⟨hne, hslash, hhere, hup, hstands⟩ := h
    exact ⟨⟨⟨hne, hhere⟩, hslash, hstands⟩, hup⟩

/-- Steps to `.` and slashes at the end are put aside. -/
example : fileName? (ofString "../../drivers/radeon/.//") = some (ofString "radeon") := by decide

end CardTelemetry.Files.Path
