import CardTelemetry.Proofs.Card.Survey
import Mathlib.Data.List.Nodup

/-!
# A survey metric by metric

The twelve metrics have different names, so the samples of a survey can be told apart by them.
For each metric it is said which samples a survey has of it and in which order; this is where
the three passes of a survey are taken apart, and nowhere else.
-/

namespace CardTelemetry

/-- The samples of a metric. -/
def ofMetric (m : Metric) (samples : List Sample) : List Sample :=
  samples.filter fun s => s.metric = m

/-- The samples of a metric that name a card. -/
def ofCard (m : Metric) (card : String) (samples : List Sample) : List Sample :=
  (ofMetric m samples).filter fun s => s.label? "card" = some card

theorem mem_ofMetric {m : Metric} {samples : List Sample} {s : Sample} :
    s ∈ ofMetric m samples ↔ s ∈ samples ∧ s.metric = m := by
  rw [ofMetric, List.mem_filter, decide_eq_true_iff]

/-- What a scraper tells samples apart by. -/
def Sample.series (s : Sample) : String × List String := (s.name, s.labelValues)

namespace Schema

/-- The metrics of a connector. -/
def ofConnector : List Metric := [connectorStatus, connectorEnabled, connectorDpms]

/-- The metrics that are numbers of a record. -/
def gauges : List Metric :=
  [busyPercent, gttSize, gttUsed, vramSize, vramUsed, visibleVramSize, visibleVramUsed]

theorem names_nodup : (all.map Metric.name).Nodup := by decide

theorem eq_of_name_eq {m m' : Metric} (hm : m ∈ all) (hm' : m' ∈ all) (h : m.name = m'.name) :
    m = m' :=
  List.inj_on_of_nodup_map names_nodup hm hm' h

theorem mem_all_iff {m : Metric} :
    m ∈ all ↔ m = cardEnable ∨ m = cardInfo ∨ m ∈ ofConnector ∨ m ∈ gauges := by
  simp only [all, ofConnector, gauges, List.mem_cons, List.not_mem_nil, or_false]
  grind

end Schema

/-- Series are different exactly when those of each metric are. -/
theorem nodup_series_iff_labels {samples : List Sample} (h : ∀ s ∈ samples, s.metric ∈ Schema.all) :
    (samples.map Sample.series).Nodup ↔
      ∀ m, ((ofMetric m samples).map Sample.labelValues).Nodup := by
  simp only [ofMetric, List.Nodup, List.pairwise_map, List.pairwise_filter, decide_eq_true_iff]
  constructor
  · intro hseries m
    apply hseries.imp
    intro a b hab ha hb hlabels
    apply hab
    rw [Sample.series, Sample.series, Sample.name, Sample.name, ha, hb, hlabels]
  · intro hmetric
    rw [List.pairwise_iff_forall_sublist]
    intro a b hab heq
    obtain ⟨hname, hlabels⟩ := Prod.mk.inj heq
    have ha : a.metric ∈ Schema.all := h a (hab.subset (by simp))
    have hb : b.metric ∈ Schema.all := h b (hab.subset (by simp))
    have hsame := Schema.eq_of_name_eq ha hb hname
    exact List.pairwise_iff_forall_sublist.mp (hmetric a.metric) hab rfl hsame.symm hlabels

namespace Collector

section Blocks

variable {α β : Type}

theorem flatMap_of_nil {f : α → List β} (h : ∀ a, f a = []) (as : List α) : as.flatMap f = [] :=
  List.flatMap_eq_nil_iff.mpr fun a _ => h a

theorem flatMap_of_single {f : α → List β} {g : α → β} (h : ∀ a, f a = [g a]) (as : List α) :
    as.flatMap f = as.map g := by
  rw [funext h, List.map_eq_flatMap]

/-- Among things with different names only the thing itself has its name. -/
theorem filter_eq_singleton {α : Type} {name : α → String} {as : List α} (h : (as.map name).Nodup)
    {a : α} (ha : a ∈ as) : (as.filter fun b => name b = name a) = [a] := by
  induction as with
  | nil => cases ha
  | cons b rest ih =>
    rw [List.map_cons, List.nodup_cons] at h
    obtain ⟨hb, hrest⟩ := h
    obtain rfl | ha := List.mem_cons.mp ha
    · have hnone : (rest.filter fun b => name b = name a) = [] := by
        rw [List.filter_eq_nil_iff]
        intro b hin heq
        exact hb (of_decide_eq_true heq ▸ List.mem_map_of_mem hin)
      rw [List.filter_cons_of_pos (by simp), hnone]
    · have hne : name b ≠ name a := fun heq => hb (heq ▸ List.mem_map_of_mem ha)
      rw [List.filter_cons_of_neg (by simpa using hne), ih hrest ha]

/-- Where each thing has one sample of a metric, which names it, a name has the sample of its
thing. -/
theorem ofCard_eq_singleton {α : Type} {m : Metric} {samples : List Sample} {as : List α}
    {sample : α → Sample} {name : α → String} (hsamples : ofMetric m samples = as.map sample)
    (hlabel : ∀ a, (sample a).label? "card" = some (name a)) (h : (as.map name).Nodup) {a : α}
    (ha : a ∈ as) : ofCard m (name a) samples = [sample a] := by
  have hnamed : ((fun s : Sample => decide (s.label? "card" = some (name a))) ∘ sample) =
      fun b => decide (name b = name a) := by
    funext b
    simp [hlabel]
  rw [ofCard, hsamples, List.filter_map, hnamed, filter_eq_singleton h ha]
  rfl

end Blocks

variable {cards : List Card} {stats : List CardStats}

theorem ofMetric_surveySamples (m : Metric) (cards : List Card) (stats : List CardStats) :
    ofMetric m (surveySamples cards stats) =
      (cards.flatMap fun c => ofMetric m [enableSample c]) ++
        ((cards.flatMap Card.connectors).flatMap fun c => ofMetric m (connectorSamples c)) ++
        (stats.flatMap fun s =>
          ofMetric m (infoSample (firstDriver cards s.name) s :: gaugeSamples s)) := by
  simp only [ofMetric, surveySamples, cardSamples, statsSamples, List.filter_append,
    List.filter_flatMap, List.map_eq_flatMap]

theorem ofMetric_cardEnable :
    ofMetric Schema.cardEnable (surveySamples cards stats) = cards.map enableSample := by
  have henable (c : Card) : ofMetric Schema.cardEnable [enableSample c] = [enableSample c] := rfl
  have hconnector (c : Connector) : ofMetric Schema.cardEnable (connectorSamples c) = [] := rfl
  have hstats (d : String) (s : CardStats) :
      ofMetric Schema.cardEnable (infoSample d s :: gaugeSamples s) = [] := rfl
  rw [ofMetric_surveySamples, flatMap_of_single henable, flatMap_of_nil hconnector,
    flatMap_of_nil fun s => hstats _ s, List.append_nil, List.append_nil]

theorem ofMetric_cardInfo :
    ofMetric Schema.cardInfo (surveySamples cards stats) =
      stats.map fun s => infoSample (firstDriver cards s.name) s := by
  have henable (c : Card) : ofMetric Schema.cardInfo [enableSample c] = [] := rfl
  have hconnector (c : Connector) : ofMetric Schema.cardInfo (connectorSamples c) = [] := rfl
  have hstats (d : String) (s : CardStats) :
      ofMetric Schema.cardInfo (infoSample d s :: gaugeSamples s) = [infoSample d s] := rfl
  rw [ofMetric_surveySamples, flatMap_of_nil henable, flatMap_of_nil hconnector,
    flatMap_of_single fun s => hstats _ s]
  rfl

theorem labels_ofConnector {m : Metric} (hm : m ∈ Schema.ofConnector) :
    (ofMetric m (surveySamples cards stats)).map Sample.labelValues =
      (cards.flatMap Card.connectors).map fun c => [c.card, c.localName] := by
  have hblocks : (∀ c, ofMetric m [enableSample c] = []) ∧
      (∀ c, (ofMetric m (connectorSamples c)).map Sample.labelValues = [[c.card, c.localName]]) ∧
      ∀ d s, ofMetric m (infoSample d s :: gaugeSamples s) = [] := by
    simp only [Schema.ofConnector, List.mem_cons, List.not_mem_nil, or_false] at hm
    rcases hm with rfl | rfl | rfl <;> exact ⟨fun _ => rfl, fun _ => rfl, fun _ _ => rfl⟩
  obtain ⟨henable, hconnector, hstats⟩ := hblocks
  rw [ofMetric_surveySamples, flatMap_of_nil henable, flatMap_of_nil fun s => hstats _ s,
    List.nil_append, List.append_nil, List.map_flatMap, flatMap_of_single hconnector]

/-- The metrics that are numbers of a record, each with the number that it is. -/
def gaugeFields : List (Metric × (CardStats → UInt64)) :=
  [(Schema.busyPercent, CardStats.busyPercent),
    (Schema.gttSize, CardStats.gttSize),
    (Schema.gttUsed, CardStats.gttUsed),
    (Schema.vramSize, CardStats.vramSize),
    (Schema.vramUsed, CardStats.vramUsed),
    (Schema.visibleVramSize, CardStats.visibleVramSize),
    (Schema.visibleVramUsed, CardStats.visibleVramUsed)]

theorem map_fst_gaugeFields : gaugeFields.map Prod.fst = Schema.gauges := rfl

/-- Each record has one sample of each of its numbers. -/
theorem ofMetric_gauge {m : Metric} {number : CardStats → UInt64}
    (hm : (m, number) ∈ gaugeFields) :
    ∃ sample : CardStats → Sample,
      ofMetric m (surveySamples cards stats) = stats.map sample ∧
        ∀ s, (sample s).labelValues = [s.name] ∧ (sample s).label? "card" = some s.name ∧
          (sample s).value = .ofWord (number s) := by
  have hblocks : (∀ c, ofMetric m [enableSample c] = []) ∧
      (∀ c, ofMetric m (connectorSamples c) = []) ∧
      ∃ sample : CardStats → Sample,
        (∀ d s, ofMetric m (infoSample d s :: gaugeSamples s) = [sample s]) ∧
          ∀ s, (sample s).labelValues = [s.name] ∧ (sample s).label? "card" = some s.name ∧
            (sample s).value = .ofWord (number s) := by
    simp only [gaugeFields, List.mem_cons, List.not_mem_nil, or_false, Prod.mk.injEq] at hm
    obtain ⟨rfl, rfl⟩ | ⟨rfl, rfl⟩ | ⟨rfl, rfl⟩ | ⟨rfl, rfl⟩ | ⟨rfl, rfl⟩ | ⟨rfl, rfl⟩ |
      ⟨rfl, rfl⟩ := hm <;>
      exact ⟨fun _ => rfl, fun _ => rfl, fun s => ⟨_, [s.name], _, rfl⟩, fun _ _ => rfl,
        fun _ => ⟨rfl, rfl, rfl⟩⟩
  obtain ⟨henable, hconnector, sample, hstats, hsample⟩ := hblocks
  refine ⟨sample, ?_, hsample⟩
  rw [ofMetric_surveySamples, flatMap_of_nil henable, flatMap_of_nil hconnector,
    List.nil_append, List.nil_append, flatMap_of_single fun s => hstats _ s]

theorem labels_gauges {m : Metric} (hm : m ∈ Schema.gauges) :
    (ofMetric m (surveySamples cards stats)).map Sample.labelValues =
      stats.map fun s => [s.name] := by
  rw [← map_fst_gaugeFields] at hm
  obtain ⟨⟨m, number⟩, hgauge, rfl⟩ := List.mem_map.mp hm
  obtain ⟨sample, hsamples, hsample⟩ := @ofMetric_gauge cards stats m number hgauge
  rw [hsamples, List.map_map]
  exact List.map_congr_left fun s _ => (hsample s).1

/-- A survey has samples of the twelve metrics only. -/
theorem metric_mem_all {s : Sample} (hs : s ∈ surveySamples cards stats) :
    s.metric ∈ Schema.all := by
  have henable (c : Card) : ∀ s ∈ [enableSample c], s.metric ∈ Schema.all := by
    simp [enableSample, Schema.all]
  have hconnector (c : Connector) : ∀ s ∈ connectorSamples c, s.metric ∈ Schema.all := by
    simp [connectorSamples, Schema.all]
  have hstats (d : String) (r : CardStats) :
      ∀ s ∈ infoSample d r :: gaugeSamples r, s.metric ∈ Schema.all := by
    simp [infoSample, gaugeSamples, Schema.all]
  simp only [surveySamples, cardSamples, statsSamples, List.mem_append, List.mem_map,
    List.mem_flatMap] at hs
  rcases hs with (⟨c, -, rfl⟩ | ⟨c, -, hc⟩) | ⟨r, -, hr⟩
  · exact henable c _ (List.mem_singleton_self _)
  · exact hconnector c s hc
  · exact hstats _ r s hr

/-- No metric but a connector's can have a series twice if no card is listed twice. -/
theorem nodup_labels_of_nodup {m : Metric} (hcards : (cards.map Card.name).Nodup)
    (hstats : (stats.map CardStats.name).Nodup) (hm : m ∉ Schema.ofConnector) :
    ((ofMetric m (surveySamples cards stats)).map Sample.labelValues).Nodup := by
  by_cases hall : m ∈ Schema.all
  · rcases Schema.mem_all_iff.mp hall with rfl | rfl | h | h
    · rw [ofMetric_cardEnable]
      apply List.Nodup.of_map (List.headD · "")
      rw [List.map_map, List.map_map]
      exact hcards
    · rw [ofMetric_cardInfo]
      apply List.Nodup.of_map (List.headD · "")
      rw [List.map_map, List.map_map]
      exact hstats
    · exact absurd h hm
    · rw [labels_gauges h]
      apply List.Nodup.of_map (List.headD · "")
      rw [List.map_map]
      exact hstats
  · have hnone : ofMetric m (surveySamples cards stats) = [] := by
      rw [ofMetric, List.filter_eq_nil_iff]
      intro s hs heq
      exact hall (of_decide_eq_true heq ▸ metric_mem_all hs)
    rw [hnone]
    exact .nil

end Collector

end CardTelemetry
