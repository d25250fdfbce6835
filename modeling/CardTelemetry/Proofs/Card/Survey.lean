import CardTelemetry.Card.Collector
import CardTelemetry.Proofs.Job.Outcome

/-!
# What a survey yields

The samples of a survey as one list: the cards' own, then three for each connector, then
eight for each record. The collector takes its readings one after the other into a buffer
and could stop at each of them. It is shown here that it never does, so a survey fails only
where its source does, and then yields nothing. No property of the source is assumed.
-/

namespace CardTelemetry

/-- The reading that a sample is of. -/
def Sample.reading (s : Sample) : Reading := ⟨s.metric, s.value, s.labelValues⟩

namespace Reading

theorem sample_reading (s : Sample) : s.reading.sample = .ok s := by
  simp [sample, Sample.reading, Sample.ofValues, s.aligned]

/-- Readings of samples are all taken, in order. -/
theorem push_readings (samples out : List Sample) :
    push out (samples.map Sample.reading) = .ok (out ++ samples) := by
  induction samples generalizing out with
  | nil => simp [push]
  | cons s rest ih =>
    rw [List.map_cons, push, sample_reading]
    change push (out ++ [s]) (rest.map Sample.reading) = _
    rw [ih, List.append_assoc, List.singleton_append]

end Reading

namespace Collector

def enableSample (c : Card) : Sample := ⟨Schema.cardEnable, [c.name], .ofBool c.enabled, rfl⟩

def connectorSamples (c : Connector) : List Sample :=
  [⟨Schema.connectorStatus, [c.card, c.localName], c.status.gauge, rfl⟩,
    ⟨Schema.connectorEnabled, [c.card, c.localName], c.enabled.gauge, rfl⟩,
    ⟨Schema.connectorDpms, [c.card, c.localName], c.dpms.gauge, rfl⟩]

def cardSamples (cards : List Card) : List Sample :=
  cards.map enableSample ++ (cards.flatMap Card.connectors).flatMap connectorSamples

/-- The driver of the first among the cards of a name, or nothing if there is none. -/
def firstDriver (cards : List Card) (name : String) : String :=
  ((cards.filter fun c => c.name = name).map Card.driver).headD ""

def infoSample (driver : String) (s : CardStats) : Sample :=
  ⟨Schema.cardInfo, [s.name, driver, s.vramVendor, s.performanceLevel, s.uniqueId, "amd"], .one,
    rfl⟩

def gaugeSamples (s : CardStats) : List Sample :=
  [⟨Schema.busyPercent, [s.name], .ofWord s.busyPercent, rfl⟩,
    ⟨Schema.gttSize, [s.name], .ofWord s.gttSize, rfl⟩,
    ⟨Schema.gttUsed, [s.name], .ofWord s.gttUsed, rfl⟩,
    ⟨Schema.vramSize, [s.name], .ofWord s.vramSize, rfl⟩,
    ⟨Schema.vramUsed, [s.name], .ofWord s.vramUsed, rfl⟩,
    ⟨Schema.visibleVramSize, [s.name], .ofWord s.visibleVramSize, rfl⟩,
    ⟨Schema.visibleVramUsed, [s.name], .ofWord s.visibleVramUsed, rfl⟩]

def statsSamples (cards : List Card) (stats : List CardStats) : List Sample :=
  stats.flatMap fun s => infoSample (firstDriver cards s.name) s :: gaugeSamples s

/-- All samples of a survey that found these cards and these records. -/
def surveySamples (cards : List Card) (stats : List CardStats) : List Sample :=
  cardSamples cards ++ statsSamples cards stats

theorem driverOf_eq_firstDriver (cards : List Card) (name : String) :
    driverOf cards name = firstDriver cards name := by
  unfold driverOf firstDriver
  rw [← List.head?_filter]
  cases cards.filter fun c => c.name = name <;> rfl

theorem cardReadings_eq (cards : List Card) :
    cardReadings cards = (cardSamples cards).map Sample.reading := by
  have hconnector (c : Connector) :
      (connectorSamples c).map Sample.reading = connectorReadings c := rfl
  rw [cardReadings, cardSamples, List.map_append, List.map_map, List.map_flatMap]
  simp only [hconnector]
  rfl

theorem statsReadings_eq (cards : List Card) (s : CardStats) :
    infoReading cards s :: gaugeReadings s =
      (infoSample (firstDriver cards s.name) s :: gaugeSamples s).map Sample.reading := by
  rw [infoReading, driverOf_eq_firstDriver]
  rfl

theorem outcome_noteUnlisted (cards : List Card) (s : CardStats) :
    (noteUnlisted cards s).outcome = .ok () := by
  unfold noteUnlisted
  split <;> rfl

/-- The pass over the records never stops. -/
theorem outcome_pushStats (cards : List Card) (stats : List CardStats) (out : List Sample) :
    (pushStats cards out stats).outcome = .ok (out ++ statsSamples cards stats) := by
  induction stats generalizing out with
  | nil => simp [pushStats, statsSamples]
  | cons s rest ih =>
    rw [pushStats, Job.outcome_andThen_of_ok (outcome_noteUnlisted cards s), statsReadings_eq,
      Reading.push_readings, Job.outcome_andThen_of_ok (Job.outcome_ofExcept _), ih]
    simp [statsSamples]

/-- The steps of the pass over the records are the events about those of no card. -/
theorem steps_pushStats (cards : List Card) (stats : List CardStats) (out : List Sample) :
    (pushStats cards out stats).steps = stats.flatMap fun s => (noteUnlisted cards s).steps := by
  induction stats generalizing out with
  | nil => rfl
  | cons s rest ih =>
    rw [pushStats, Job.steps_andThen_of_ok (outcome_noteUnlisted cards s), statsReadings_eq,
      Reading.push_readings, Job.steps_andThen_of_ok (Job.outcome_ofExcept _), ih,
      List.flatMap_cons]
    rfl

/-- A survey without its `do`, and with the readings of the cards taken. -/
theorem survey_eq (source : Source) :
    survey source = (Job.ask .cards).andThen fun _ => source.cards.andThen fun cards =>
      (Job.ask .stats).andThen fun _ => source.stats.andThen fun stats =>
        pushStats cards (cardSamples cards) stats := by
  have hcards (cards : List Card) :
      Reading.push [] (cardReadings cards) = .ok (cardSamples cards) := by
    rw [cardReadings_eq, Reading.push_readings, List.nil_append]
  have htaken (cards : List Card) (next : List Sample → Job (List Sample)) :
      (Job.ofExcept (Reading.push [] (cardReadings cards))).andThen next =
        next (cardSamples cards) := by
    rw [hcards]
    simp [Job.andThen, Job.ofExcept]
  simp only [survey, Job.bind_eq_andThen, htaken]

/-- A survey fails exactly where its source does. -/
theorem survey_outcome (source : Source) :
    (survey source).outcome = source.cards.outcome.bind fun cards =>
      source.stats.outcome.bind fun stats => .ok (surveySamples cards stats) := by
  simp only [survey_eq, Job.outcome_andThen, outcome_pushStats]
  rfl

theorem steps_survey {source : Source} {cards : List Card} {stats : List CardStats}
    (hcards : source.cards.outcome = .ok cards) (hstats : source.stats.outcome = .ok stats) :
    (survey source).steps =
      .asked .cards :: (source.cards.steps ++ .asked .stats :: (source.stats.steps ++
        stats.flatMap fun s => (noteUnlisted cards s).steps)) := by
  simp [survey_eq, Job.andThen, Job.ask, Job.step, hcards, hstats, steps_pushStats]

theorem survey_eq_ok_iff {source : Source} {samples : List Sample} :
    (survey source).outcome = .ok samples ↔
      ∃ cards stats, source.cards.outcome = .ok cards ∧ source.stats.outcome = .ok stats ∧
        samples = surveySamples cards stats := by
  rw [survey_outcome]
  cases source.cards.outcome with
  | error f => simp [Except.bind]
  | ok cards =>
    cases source.stats.outcome with
    | error f => simp [Except.bind]
    | ok stats => simp [Except.bind, eq_comm]

section AllSteps

variable {P : Step → Prop} {source : Source}

theorem allSteps_survey (hasked : ∀ q, P (.asked q)) (hunlisted : ∀ n, P (.noted (.unlistedCard n)))
    (hcards : source.cards.AllSteps P) (hstats : source.stats.AllSteps P) :
    (survey source).AllSteps P := by
  have hask (q : Query) : (Job.ask q).AllSteps P := by
    intro s hs
    rw [List.mem_singleton.mp hs]
    exact hasked q
  have hpush (cards : List Card) (out : List Sample) (stats : List CardStats) :
      (pushStats cards out stats).AllSteps P := by
    intro s hs
    rw [steps_pushStats, List.mem_flatMap] at hs
    obtain ⟨r, -, hr⟩ := hs
    unfold noteUnlisted at hr
    split at hr
    · cases hr
    · rw [List.mem_singleton.mp hr]
      exact hunlisted r.name
  rw [survey_eq]
  refine (hask _).andThen fun _ => hcards.andThen fun cards => ?_
  exact (hask _).andThen fun _ => hstats.andThen fun stats => hpush cards _ stats

/-- A survey takes no time of its own. -/
theorem elapsed_collect (hcards : source.cards.AllSteps fun s => s.millis = 0)
    (hstats : source.stats.AllSteps fun s => s.millis = 0) : (collect source).elapsed = 0 := by
  apply Job.elapsed_eq_zero
  simp only [collect, Job.bind_eq_andThen]
  refine (allSteps_survey (fun _ => rfl) (fun _ => rfl) hcards hstats).andThen fun samples => ?_
  refine Job.AllSteps.andThen ?_ fun _ => Job.allSteps_done samples
  intro s hs
  rw [List.mem_singleton.mp hs]
  rfl

end AllSteps

theorem outcome_collect (source : Source) : (collect source).outcome = (survey source).outcome := by
  simp only [collect, Job.bind_eq_andThen, Job.outcome_andThen, Job.outcome_note]
  cases (survey source).outcome <;> rfl

theorem survey_of_cards_error {source : Source} {f : Fault} (h : source.cards.outcome = .error f) :
    survey source = ⟨.asked .cards :: source.cards.steps, .error f⟩ := by
  simp [survey_eq, Job.andThen, Job.ask, Job.step, h]

theorem survey_of_stats_error {source : Source} {cards : List Card} {f : Fault}
    (hcards : source.cards.outcome = .ok cards) (hstats : source.stats.outcome = .error f) :
    survey source =
      ⟨.asked .cards :: (source.cards.steps ++ .asked .stats :: source.stats.steps), .error f⟩ := by
  simp [survey_eq, Job.andThen, Job.ask, Job.step, hcards, hstats]

theorem length_cardSamples (cards : List Card) :
    (cardSamples cards).length = cards.length + 3 * (cards.flatMap Card.connectors).length := by
  have hthree (c : Connector) : (connectorSamples c).length = 3 := rfl
  rw [cardSamples, List.length_append, List.length_map, List.length_flatMap]
  simp only [hthree, List.map_const', List.sum_replicate_nat]
  omega

theorem length_statsSamples (cards : List Card) (stats : List CardStats) :
    (statsSamples cards stats).length = 8 * stats.length := by
  have height (s : CardStats) :
      (infoSample (firstDriver cards s.name) s :: gaugeSamples s).length = 8 := rfl
  rw [statsSamples, List.length_flatMap]
  simp only [height, List.map_const', List.sum_replicate_nat]
  omega

theorem length_surveySamples (cards : List Card) (stats : List CardStats) :
    (surveySamples cards stats).length =
      cards.length + 3 * (cards.flatMap Card.connectors).length + 8 * stats.length := by
  rw [surveySamples, List.length_append, length_cardSamples, length_statsSamples]

/-- **A survey is all or nothing, and exact.** A source that fails to list its cards is not asked
for their records, and nothing but the source makes a survey fail: no wrong count of label
values comes from the collector itself. -/
theorem survey_all_or_nothing (source : Source) :
    (match source.cards.outcome, source.stats.outcome with
      | .error f, _ => survey source = ⟨.asked .cards :: source.cards.steps, .error f⟩
      | .ok _, .error f =>
        survey source =
          ⟨.asked .cards :: (source.cards.steps ++ .asked .stats :: source.stats.steps), .error f⟩
      | .ok cards, .ok stats =>
        ∃ samples, (survey source).outcome = .ok samples ∧
          samples = cards.map enableSample ++
            (cards.flatMap Card.connectors).flatMap connectorSamples ++
            (stats.flatMap fun s => infoSample (firstDriver cards s.name) s :: gaugeSamples s) ∧
          samples.length =
            cards.length + 3 * (cards.flatMap Card.connectors).length + 8 * stats.length) ∧
    ∀ metric expected given,
      (survey source).outcome = .error (.labelCount metric expected given) →
      source.cards.outcome = .error (.labelCount metric expected given) ∨
        source.stats.outcome = .error (.labelCount metric expected given) := by
  cases hc : source.cards.outcome with
  | error f =>
    refine ⟨survey_of_cards_error hc, fun metric expected given h => .inl ?_⟩
    rw [survey_of_cards_error hc] at h
    rw [Except.error.inj h]
  | ok cards =>
    cases hs : source.stats.outcome with
    | error f =>
      refine ⟨survey_of_stats_error hc hs, fun metric expected given h => .inr ?_⟩
      rw [survey_of_stats_error hc hs] at h
      rw [Except.error.inj h]
    | ok stats =>
      have hsurvey : (survey source).outcome = .ok (surveySamples cards stats) := by
        rw [survey_outcome, hc, hs]
        rfl
      refine ⟨⟨_, hsurvey, rfl, length_surveySamples cards stats⟩, ?_⟩
      intro metric expected given h
      rw [hsurvey] at h
      cases h

end Collector

end CardTelemetry
