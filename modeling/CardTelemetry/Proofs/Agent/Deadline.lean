import CardTelemetry.Proofs.Agent.Rounds
import CardTelemetry.Proofs.Card.Survey

/-!
# Polls under a deadline

A poll asks its source two questions and gives up when the answers take longer than the settings
allow. What it comes to depends on four things only: how long either answer takes and what it is.
That the source is looked at before the clock, so that an answer at the deadline itself still
counts, is how jobs are defined and not shown here. Polls of one collector are made in rounds, and
none of them changes what a later one comes to.
-/

namespace CardTelemetry

/-- The time that the settings allow is kept to the millisecond. -/
theorem Settings.millis_timeout (settings : Settings) :
    settings.timeout.millis = settings.collectTimeout.toNat := by
  simp only [timeout, Span.ofMillis, Span.millis]
  omega

namespace Collector

open Session (Spaced Turn)

/-! ### The time of a survey -/

section Elapsed

variable {source : Source} {cards : List Card} {f : Fault}

theorem elapsed_survey_of_error (h : source.cards.outcome = .error f) :
    (survey source).elapsed = source.cards.elapsed := by
  rw [Job.elapsed, survey_of_cards_error h, Job.duration]
  exact Nat.zero_add _

theorem elapsed_pushStats (cards : List Card) (stats : List CardStats) (out : List Sample) :
    (pushStats cards out stats).elapsed = 0 := by
  apply Job.elapsed_eq_zero
  intro s hs
  rw [steps_pushStats, List.mem_flatMap] at hs
  obtain ⟨r, -, hr⟩ := hs
  unfold noteUnlisted at hr
  split at hr
  · cases hr
  · rw [List.mem_singleton.mp hr]
    rfl

/-- Of the steps of a survey only those of its source take time. -/
theorem elapsed_survey_of_ok (h : source.cards.outcome = .ok cards) :
    (survey source).elapsed = source.cards.elapsed + source.stats.elapsed := by
  have hask (q : Query) : (Job.ask q).elapsed = 0 := rfl
  have hasked (q : Query) : (Job.ask q).outcome = .ok () := rfl
  have hstats : (source.stats.andThen fun stats =>
      pushStats cards (cardSamples cards) stats).elapsed = source.stats.elapsed := by
    cases hs : source.stats.outcome with
    | error f => exact Job.elapsed_andThen_of_error hs _
    | ok stats => rw [Job.elapsed_andThen_of_ok hs, elapsed_pushStats, Nat.add_zero]
  rw [survey_eq, Job.elapsed_andThen_of_ok (hasked .cards), Job.elapsed_andThen_of_ok h,
    Job.elapsed_andThen_of_ok (hasked .stats), hask, hask, hstats, Nat.zero_add, Nat.zero_add]

theorem elapsed_collect_eq (source : Source) :
    (collect source).elapsed = (survey source).elapsed := by
  simp only [collect, Job.bind_eq_andThen]
  cases hs : (survey source).outcome with
  | error f => exact Job.elapsed_andThen_of_error hs _
  | ok samples =>
    rw [Job.elapsed_andThen_of_ok hs]
    rfl

end Elapsed

/-! ### What a poll comes to -/

/-- What becomes of a poll whose two answers take some time each, of what they are and of the time
that is allowed for both. -/
def verdict (allowed first second : Nat) (cards : Except Fault (List Card))
    (stats : Except Fault (List CardStats)) : Except Fault (List Sample) :=
  if allowed < first then .error (.timeout allowed)
  else
    match cards with
    | .error f => .error f
    | .ok cards =>
      if allowed < first + second then .error (.timeout allowed)
      else
        match stats with
        | .error f => .error f
        | .ok stats => .ok (surveySamples cards stats)

theorem outcome_within_collect {allowed : Nat} (h : allowed < UInt64.size) (source : Source) :
    (Job.within allowed (collect source)).outcome =
      verdict allowed source.cards.elapsed source.stats.elapsed source.cards.outcome
        source.stats.outcome := by
  have hword : (UInt64.ofNat allowed).toNat = allowed := UInt64.toNat_ofNat_of_lt' h
  rw [Job.outcome_within, hword, outcome_collect, elapsed_collect_eq, survey_outcome]
  unfold verdict
  cases hc : source.cards.outcome with
  | error f =>
    rw [elapsed_survey_of_error hc]
    by_cases hlate : allowed < source.cards.elapsed
    · rw [if_pos hlate, if_neg (Nat.not_le.mpr hlate)]
    · rw [if_neg hlate, if_pos (Nat.not_lt.mp hlate)]
      rfl
  | ok cards =>
    rw [elapsed_survey_of_ok hc]
    by_cases hlate : allowed < source.cards.elapsed + source.stats.elapsed
    · -- which of the two answers is late makes no difference
      rw [if_neg (Nat.not_le.mpr hlate)]
      simp only [hlate, ↓reduceIte, ite_self]
    · rw [if_pos (Nat.not_lt.mp hlate), if_neg (by omega)]
      simp only [hlate, ↓reduceIte]
      cases source.stats.outcome <;> rfl

section Verdict

variable {allowed allowed' first second : Nat} {cards : Except Fault (List Card)}
  {stats : Except Fault (List CardStats)}

/-- More time changes nothing where the time was not too short. -/
theorem verdict_of_le (hle : allowed ≤ allowed')
    (h : ∀ n, verdict allowed first second cards stats ≠ .error (.timeout n)) :
    verdict allowed' first second cards stats = verdict allowed first second cards stats := by
  unfold verdict at h ⊢
  by_cases hfirst : allowed < first
  · simp only [hfirst, ↓reduceIte] at h
    exact absurd rfl (h allowed)
  · rw [if_neg hfirst, if_neg (by omega)]
    cases cards with
    | error f => rfl
    | ok cards =>
      by_cases hsecond : allowed < first + second
      · simp only [hfirst, hsecond, ↓reduceIte] at h
        exact absurd rfl (h allowed)
      · simp only [hsecond, show ¬ allowed' < first + second by omega, ↓reduceIte]

theorem verdict_of_cards_error {f : Fault} (hcards : cards = .error f) (htime : first ≤ allowed) :
    verdict allowed first second cards stats = .error f := by
  unfold verdict
  rw [if_neg (Nat.not_lt.mpr htime), hcards]

theorem verdict_of_stats_error {f : Fault} {found : List Card} (hcards : cards = .ok found)
    (hstats : stats = .error f) (htime : first + second ≤ allowed) :
    verdict allowed first second cards stats = .error f := by
  simp only [verdict, hcards, hstats, show ¬ allowed < first by omega,
    Nat.not_lt.mpr htime, ↓reduceIte]

end Verdict

theorem outcome_poll (settings : Settings) (source : Source) :
    ((Gatherer.ofSource source).collectWithin settings.timeout).outcome =
      (verdict settings.collectTimeout.toNat source.cards.elapsed source.stats.elapsed
        source.cards.outcome source.stats.outcome).map fun samples => ⟨name, samples⟩ := by
  rw [Gatherer.collectWithin, Settings.millis_timeout, Job.outcome_andThen,
    ← outcome_within_collect settings.collectTimeout.toNat_lt]
  show Except.bind (Job.within _ (collect source)).outcome _ = _
  cases (Job.within _ (collect source)).outcome <;> rfl

theorem map_eq_error_iff {α β : Type} {r : Except Fault α} {g : α → β} {f : Fault} :
    r.map g = .error f ↔ r = .error f := by
  cases r <;> simp [Except.map]

/-- **A deadline cuts off what comes after it and nothing else.** The first answer counts if it
comes in time, the second if both do together, and the fault tells the very time that was allowed.
More time changes only polls that were too slow, a failure within the time is not hidden and a
failed poll prints nothing. Among the polls of one collector a poll comes to what its source makes of it,
whatever the polls before it have come to, and those cannot delay it where they are spaced. -/
theorem poll_under_deadline (settings : Settings) (source : Source) :
    ((Gatherer.ofSource source).collectWithin settings.timeout).outcome =
        (verdict settings.collectTimeout.toNat source.cards.elapsed source.stats.elapsed
          source.cards.outcome source.stats.outcome).map (fun samples => ⟨name, samples⟩) ∧
      (∀ settings' : Settings, settings.collectTimeout ≤ settings'.collectTimeout →
        (∀ n, ((Gatherer.ofSource source).collectWithin settings.timeout).outcome ≠
          .error (.timeout n)) →
        ((Gatherer.ofSource source).collectWithin settings'.timeout).outcome =
          ((Gatherer.ofSource source).collectWithin settings.timeout).outcome) ∧
      (∀ f, source.cards.outcome = .error f →
        source.cards.elapsed ≤ settings.collectTimeout.toNat →
        ((Gatherer.ofSource source).collectWithin settings.timeout).outcome = .error f) ∧
      (∀ cards f, source.cards.outcome = .ok cards → source.stats.outcome = .error f →
        source.cards.elapsed + source.stats.elapsed ≤ settings.collectTimeout.toNat →
        ((Gatherer.ofSource source).collectWithin settings.timeout).outcome = .error f) ∧
      (∀ f host,
        ((Gatherer.ofSource source).collectWithin settings.timeout).outcome = .error f →
        (Session.runOne settings host (.ofSource source)).output = "") ∧
      ∀ (world : List Session.Polled → Nat → Source) (start due : Nat) (before after : List Turn),
        ∃ p, (Session.polls world start
            (before ++ ⟨due, settings.timeout⟩ :: after))[before.length]? = some p ∧
          (world (Session.polls world start before) p.begun = source →
            p.outcome = ((Gatherer.ofSource source).collectWithin settings.timeout).outcome) ∧
          (Spaced (before ++ [⟨due, settings.timeout⟩]) →
            (∀ t ∈ before ++ [⟨due, settings.timeout⟩], start ≤ t.due) → p.begun = due) := by
  have houtcome (s : Settings) := outcome_poll s source
  refine ⟨houtcome settings, ?_, ?_, ?_, ?_, ?_⟩
  · intro settings' hle hnot
    rw [houtcome] at hnot
    rw [houtcome, houtcome, verdict_of_le (UInt64.le_iff_toNat_le.mp hle)]
    intro n hlate
    exact hnot n (map_eq_error_iff.mpr hlate)
  · intro f hcards htime
    rw [houtcome, map_eq_error_iff]
    exact verdict_of_cards_error hcards htime
  · intro cards f hcards hstats htime
    rw [houtcome, map_eq_error_iff]
    exact verdict_of_stats_error hcards hstats htime
  · intro f host hfailed
    simp [Session.runOne, hfailed]
  · intro world start due before after
    refine ⟨_, Session.getElem?_polls world start before after _, ?_, ?_⟩
    · intro hsource
      rw [Session.poll_outcome, hsource]
    · exact Session.poll_begun_of_spaced

/-- A source that takes five seconds and a bit to fail. -/
def slowSource : Source where
  cards := (Job.wait 3000).andThen fun _ => .done [⟨"card0", "", true, []⟩]
  stats := (Job.wait 2001).andThen fun _ => .fail (.notDirectory "/sys")

/-- A source that knows of one card at once. -/
def quickSource : Source where
  cards := .done [⟨"card0", "", true, []⟩]
  stats := .done []

/-- A source that is slow the first time it is asked, and quick from then on. -/
def slowAtFirst (past : List Session.Polled) (_ : Nat) : Source :=
  if past.isEmpty then slowSource else quickSource

theorem poll_under_deadline_slowSource :
    ((Gatherer.ofSource slowSource).collectWithin Settings.default.timeout).outcome =
        .error (.timeout 5000) ∧
      ((Gatherer.ofSource slowSource).collectWithin
        { Settings.default with collectTimeout := 5001 }.timeout).outcome =
          .error (.notDirectory "/sys") ∧
      ∃ p, (Session.polls slowAtFirst 0
          [⟨0, Settings.default.timeout⟩, ⟨4000, Settings.default.timeout⟩])[1]? = some p ∧
        p.begun = 5000 ∧
        p.outcome = .ok ⟨"drm", [⟨Schema.cardEnable, ["card0"], .one, rfl⟩]⟩ := by
  refine ⟨(poll_under_deadline Settings.default slowSource).1,
    (poll_under_deadline { Settings.default with collectTimeout := 5001 } slowSource).2.2.2.1
      _ _ rfl rfl (by decide), ?_⟩
  obtain ⟨p, hp, hsource, -⟩ := (poll_under_deadline Settings.default quickSource).2.2.2.2.2
    slowAtFirst 0 4000 [⟨0, Settings.default.timeout⟩] []
  have hbegun : p.begun = 5000 := by
    rw [← Option.some.inj hp]
    rfl
  refine ⟨p, hp, hbegun, ?_⟩
  rw [hsource rfl]
  rfl

end Collector

end CardTelemetry
