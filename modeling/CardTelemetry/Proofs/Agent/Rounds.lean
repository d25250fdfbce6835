import CardTelemetry.Agent.Session
import CardTelemetry.Proofs.Job.Clock
import Mathlib.Data.List.Induction

/-!
# Rounds of a collector

A collector keeps nothing from one round to the next. What its source does in a round may depend on
everything before, but given that, the round comes to what it would come to alone. It may begin late
if the rounds before it took too long, though not where each is given no more time than there is
before the next is due.
-/

namespace CardTelemetry.Session

/-! ### One round -/

section Round

variable (source : Nat → Source) (free : Nat) (t : Turn)

theorem poll_begun : (poll source free t).begun = max free t.due := rfl

/-- **A round comes to what it would come to alone**, with what its source does at that time. -/
theorem poll_outcome : (poll source free t).outcome =
    ((Gatherer.ofSource (source (poll source free t).begun)).collectWithin t.timeout).outcome := by
  rw [poll_begun, poll, Gatherer.collectWithin, Job.outcome_andThen, Job.runAt_outcome]
  generalize (Job.within _ _).outcome = r
  cases r <;> rfl

theorem poll_ended :
    (poll source free t).ended ≤ (poll source free t).begun + t.timeout.millis := by
  rw [poll_begun, poll, Job.runAt_time]
  exact Nat.add_le_add_left (Nat.min_le_right _ _) _

end Round

/-! ### Rounds one after the other -/

section Rounds

variable (source : List Polled → Nat → Source) (start : Nat)

theorem polls_append (before after : List Turn) :
    polls source start (before ++ after) =
      after.foldl (pollNext source start) (polls source start before) := by
  rw [polls, polls, List.foldl_append]

theorem polls_concat (before : List Turn) (t : Turn) :
    polls source start (before ++ [t]) = pollNext source start (polls source start before) t := by
  rw [polls_append, List.foldl_cons, List.foldl_nil]

theorem length_polls (turns : List Turn) : (polls source start turns).length = turns.length := by
  induction turns using List.reverseRecOn with
  | nil => rfl
  | append_singleton before t ih =>
    rw [polls_concat, pollNext, List.length_append, List.length_append, ih]
    rfl

/-- Rounds that have been made are not changed by those that follow. -/
theorem prefix_foldl_pollNext (past : List Polled) (turns : List Turn) :
    past <+: turns.foldl (pollNext source start) past := by
  induction turns generalizing past with
  | nil => exact List.prefix_refl _
  | cons t rest ih => exact (List.prefix_append past _).trans (ih _)

/-- A round follows from the rounds before it, whatever comes after. -/
theorem getElem?_polls (before after : List Turn) (t : Turn) :
    (polls source start (before ++ t :: after))[before.length]? =
      some (poll (source (polls source start before))
        (freeAfter start (polls source start before)) t) := by
  obtain ⟨later, hlater⟩ := prefix_foldl_pollNext source start
    (pollNext source start (polls source start before) t) after
  rw [polls_append, List.foldl_cons, ← hlater, pollNext, ← length_polls source start before,
    List.append_assoc, List.getElem?_append_right (Nat.le_refl _), Nat.sub_self]
  rfl

end Rounds

/-! ### Rounds that begin when they are due -/

/-- Each round is given no more time than there is before a later one is due. -/
def Spaced (turns : List Turn) : Prop :=
  turns.Pairwise fun a b => a.due + a.timeout.millis ≤ b.due

variable {source : List Polled → Nat → Source} {start due : Nat} {turns before : List Turn}

/-- A round that begins when it is due is over before the next one is due. -/
theorem freeAfter_polls_le (hspaced : Spaced turns) (hstart : ∀ t ∈ turns, start ≤ t.due)
    (hfirst : start ≤ due) (hdue : ∀ t ∈ turns, t.due + t.timeout.millis ≤ due) :
    freeAfter start (polls source start turns) ≤ due := by
  induction turns using List.reverseRecOn generalizing due with
  | nil => exact hfirst
  | append_singleton before t ih =>
    obtain ⟨hbefore, -, hlast⟩ := List.pairwise_append.mp hspaced
    have hmem : t ∈ before ++ [t] := List.mem_append_right before (List.mem_singleton_self t)
    have hfree : freeAfter start (polls source start before) ≤ t.due :=
      ih hbefore (fun u hu => hstart u (List.mem_append_left _ hu)) (hstart t hmem)
        (fun u hu => hlast u hu t (List.mem_singleton_self t))
    rw [polls_concat, pollNext, freeAfter, List.getLast?_concat]
    calc (poll (source (polls source start before)) _ t).ended
        ≤ max (freeAfter start (polls source start before)) t.due + t.timeout.millis :=
          poll_ended _ _ t
      _ = t.due + t.timeout.millis := by rw [Nat.max_eq_right hfree]
      _ ≤ due := hdue t hmem

/-- **Spaced rounds begin when they are due**, whatever the rounds before have come to. -/
theorem poll_begun_of_spaced {t : Turn} (hspaced : Spaced (before ++ [t]))
    (hstart : ∀ u ∈ before ++ [t], start ≤ u.due) :
    (poll (source (polls source start before))
      (freeAfter start (polls source start before)) t).begun = t.due := by
  obtain ⟨hbefore, -, hlast⟩ := List.pairwise_append.mp hspaced
  rw [poll_begun, Nat.max_eq_right]
  apply freeAfter_polls_le hbefore
  · exact fun u hu => hstart u (List.mem_append_left _ hu)
  · exact hstart t (List.mem_append_right before (List.mem_singleton_self t))
  · exact fun u hu => hlast u hu t (List.mem_singleton_self t)

end CardTelemetry.Session
