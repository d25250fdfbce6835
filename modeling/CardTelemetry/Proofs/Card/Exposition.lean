import CardTelemetry.Proofs.Card.Samples
import CardTelemetry.Proofs.Metric.Blocks
import CardTelemetry.Proofs.Metric.ReadBack

/-!
# The exposition text of a survey

A survey takes the samples card by card, connector by connector and record by record, and the text
has them metric by metric. Here the text is written down metric by metric from the cards and the
records at once, in the one order that all surveys share. Names of cards may repeat, and then their
lines do as well.
-/

namespace CardTelemetry.Collector

open Exposition

/-- The metrics of a connector, each with the gauge that it is. -/
def connectorFields : List (Metric × (Connector → Binary64)) :=
  [(Schema.connectorStatus, fun c => c.status.gauge),
    (Schema.connectorEnabled, fun c => c.enabled.gauge),
    (Schema.connectorDpms, fun c => c.dpms.gauge)]

/-- The twelve metrics in the order of the text, with an entry for each card, each connector or each
record. -/
def rows (cards : List Card) (stats : List CardStats) : List (Metric × List Entry) :=
  [(Schema.cardEnable, cards.map fun c => ([c.name], .ofBool c.enabled))] ++
    (connectorFields.map fun f => (f.1, (cards.flatMap Card.connectors).map fun c =>
      ([c.card, c.localName], f.2 c))) ++
    [(Schema.cardInfo, stats.map fun s => ([s.name, firstDriver cards s.name, s.vramVendor,
      s.performanceLevel, s.uniqueId, "amd"], .one))] ++
    (gaugeFields.map fun f => (f.1, stats.map fun s => ([s.name], .ofWord (f.2 s))))

section Rows

variable (cards : List Card) (stats : List CardStats)

theorem metrics_rows : (rows cards stats).map Prod.fst =
    Schema.cardEnable :: (Schema.ofConnector ++ Schema.cardInfo :: Schema.gauges) := rfl

theorem names_rows : (rows cards stats).map (fun r => r.1.name) =
    ([Schema.cardEnable.name] ++ Schema.ofConnector.map Metric.name) ++
      (Schema.cardInfo :: Schema.gauges).map Metric.name := rfl

theorem nodup_names_rows : ((rows cards stats).map fun r => r.1.name).Nodup := by
  rw [names_rows]
  decide

theorem names_surveySamples : (surveySamples cards stats).map Sample.name =
    (cards.flatMap fun _ => [Schema.cardEnable.name]) ++
      ((cards.flatMap Card.connectors).flatMap fun _ => Schema.ofConnector.map Metric.name) ++
      (stats.flatMap fun _ => (Schema.cardInfo :: Schema.gauges).map Metric.name) := by
  have henable (c : Card) : (enableSample c).name = Schema.cardEnable.name := rfl
  have hconnector (c : Connector) :
      (connectorSamples c).map Sample.name = Schema.ofConnector.map Metric.name := rfl
  have hstats (d : String) (s : CardStats) : (infoSample d s :: gaugeSamples s).map Sample.name =
      (Schema.cardInfo :: Schema.gauges).map Metric.name := rfl
  rw [surveySamples, cardSamples, statsSamples, List.map_append, List.map_append, List.map_map,
    List.map_flatMap, List.map_flatMap, List.map_eq_flatMap]
  simp only [Function.comp_apply, henable, hconnector, hstats]

/-- The names come in the order of the rows, whichever of them come at all. -/
theorem order_surveySamples : ((surveySamples cards stats).map Sample.name).eraseDups.Sublist
    ((rows cards stats).map fun r => r.1.name) := by
  have hnodup := nodup_names_rows cards stats
  rw [names_rows] at hnodup
  rw [names_surveySamples, names_rows]
  apply eraseDups_append_sublist _ (eraseDups_repeated_sublist _ stats) hnodup
  apply eraseDups_append_sublist (eraseDups_repeated_sublist _ cards)
    (eraseDups_repeated_sublist _ (cards.flatMap Card.connectors))
  decide

theorem metric_mem_all_of_row {r : Metric × List Entry} (hr : r ∈ rows cards stats) :
    r.1 ∈ Schema.all := by
  have hmem : r.1 ∈
      Schema.cardEnable :: (Schema.ofConnector ++ Schema.cardInfo :: Schema.gauges) := by
    rw [← metrics_rows cards stats]
    exact List.mem_map_of_mem hr
  rw [Schema.mem_all_iff]
  rcases List.mem_cons.mp hmem with henable | hmem
  · exact .inl henable
  · rcases List.mem_append.mp hmem with hconnector | hmem
    · exact .inr (.inr (.inl hconnector))
    · rcases List.mem_cons.mp hmem with hinfo | hgauge
      · exact .inr (.inl hinfo)
      · exact .inr (.inr (.inr hgauge))

/-- Each connector has one sample of each of its metrics. -/
theorem entries_connector {m : Metric} {gauge : Connector → Binary64}
    (hm : (m, gauge) ∈ connectorFields) :
    (ofMetric m (surveySamples cards stats)).map entry =
      (cards.flatMap Card.connectors).map fun c => ([c.card, c.localName], gauge c) := by
  have hblocks : (∀ c, ofMetric m [enableSample c] = []) ∧
      (∀ c, (ofMetric m (connectorSamples c)).map entry = [([c.card, c.localName], gauge c)]) ∧
      ∀ d s, ofMetric m (infoSample d s :: gaugeSamples s) = [] := by
    simp only [connectorFields, List.mem_cons, List.not_mem_nil, or_false, Prod.mk.injEq] at hm
    rcases hm with ⟨rfl, rfl⟩ | ⟨rfl, rfl⟩ | ⟨rfl, rfl⟩ <;>
      exact ⟨fun _ => rfl, fun _ => rfl, fun _ _ => rfl⟩
  obtain ⟨henable, hconnector, hstats⟩ := hblocks
  rw [ofMetric_surveySamples, flatMap_of_nil henable, flatMap_of_nil fun s => hstats _ s,
    List.nil_append, List.append_nil, List.map_flatMap, flatMap_of_single hconnector]

/-- The samples of a row's metric are those of its entries. -/
theorem entries_row {r : Metric × List Entry} (hr : r ∈ rows cards stats) :
    (ofMetric r.1 (surveySamples cards stats)).map entry = r.2 := by
  simp only [rows, List.mem_append, List.mem_singleton, List.mem_map] at hr
  rcases hr with ((rfl | ⟨f, hf, rfl⟩) | rfl) | ⟨f, hf, rfl⟩
  · rw [ofMetric_cardEnable, List.map_map]
    rfl
  · exact entries_connector cards stats hf
  · rw [ofMetric_cardInfo, List.map_map]
    rfl
  · obtain ⟨sample, hsamples, hsample⟩ := @ofMetric_gauge cards stats f.1 f.2 hf
    rw [hsamples, List.map_map]
    apply List.map_congr_left
    intro s _
    obtain ⟨hlabels, -, hvalue⟩ := hsample s
    show ((sample s).labelValues, (sample s).value) = _
    rw [hlabels, hvalue]

theorem write_surveySamples : write (surveySamples cards stats) =
    (rows cards stats).flatMap fun r => block r.1 r.2 := by
  have hmetric : ∀ r ∈ rows cards stats, ∀ s ∈ surveySamples cards stats,
      s.name = r.1.name → s.metric = r.1 := by
    intro r hr s hs hname
    exact Schema.eq_of_name_eq (metric_mem_all hs) (metric_mem_all_of_row cards stats hr) hname
  apply write_eq_blocks (nodup_names_rows cards stats) (order_surveySamples cards stats) hmetric
  intro r hr
  have hfilter : ((surveySamples cards stats).filter fun s => s.name = r.1.name) =
      ofMetric r.1 (surveySamples cards stats) := by
    apply List.filter_congr
    intro s hs
    rw [decide_eq_decide]
    constructor
    · exact hmetric r hr s hs
    · intro heq
      exact congrArg Metric.name heq
  rw [hfilter, entries_row cards stats hr]

theorem legible_surveySamples {s : Sample} (hs : s ∈ surveySamples cards stats) :
    Legible s.metric := by
  have hall : ∀ m ∈ Schema.all, Legible m := by decide
  exact hall s.metric (metric_mem_all hs)

theorem rows_empty_iff : (∀ r ∈ rows cards stats, r.2 = []) ↔ cards = [] ∧ stats = [] := by
  constructor
  · intro h
    simp only [rows, List.forall_mem_append, List.forall_mem_singleton, List.map_eq_nil_iff] at h
    obtain ⟨⟨⟨hcards, -⟩, hstats⟩, -⟩ := h
    exact ⟨hcards, hstats⟩
  · intro h
    obtain ⟨rfl, rfl⟩ := h
    simp [rows, connectorFields, gaugeFields]

end Rows

/-- The text of a survey is read back, whatever its cards and records are called and say. -/
theorem survey_lines_expose {source : Source} {samples : List Sample}
    (h : (survey source).outcome = .ok samples) :
    ∃ ls : List (List Char), (expose samples).toList.splitOn '\n' = ls ++ [[]] ∧
      ls.length = 2 * (samples.map Sample.name).eraseDups.length + samples.length ∧
      ls.map readLine = ((samples.map Sample.name).eraseDups.flatMap fun name =>
        blockItems (samples.filter fun s => s.name = name)).map some := by
  obtain ⟨cards, stats, -, -, rfl⟩ := survey_eq_ok_iff.mp h
  exact lines_expose _ fun s hs => legible_surveySamples cards stats hs

/-- **The text of a survey, metric by metric.** It is the blocks of the twelve metrics one after the
other, each once, and a metric of which the survey has found nothing is left out. So there is no
text only if there are neither cards nor records. -/
theorem text_metric_by_metric {source : Source} {samples : List Sample}
    (h : (survey source).outcome = .ok samples) :
    ∃ cards stats, source.cards.outcome = .ok cards ∧ source.stats.outcome = .ok stats ∧
      expose samples = String.ofList ((rows cards stats).flatMap fun r => block r.1 r.2) ∧
      ((rows cards stats).map fun r => r.1.name).Nodup ∧
      (∀ r ∈ rows cards stats, block r.1 r.2 = [] ↔ r.2 = []) ∧
      (expose samples = "" ↔ cards = [] ∧ stats = []) := by
  obtain ⟨cards, stats, hcards, hstats, rfl⟩ := survey_eq_ok_iff.mp h
  have htext : expose (surveySamples cards stats) =
      String.ofList ((rows cards stats).flatMap fun r => block r.1 r.2) := by
    rw [expose, write_surveySamples]
  refine ⟨cards, stats, hcards, hstats, htext, nodup_names_rows cards stats,
    fun r _ => block_eq_nil_iff, ?_⟩
  rw [htext, ← rows_empty_iff cards stats, String.ofList_eq_empty_iff, List.flatMap_eq_nil_iff]
  simp only [block_eq_nil_iff]

def oneCard : Source := ⟨.done [⟨"card0", "i915", true, []⟩], .done []⟩

/-- Two cards with a connector each, and no records. -/
def twoCards : Source :=
  ⟨.done [⟨"card0", "i915", true, [⟨"card0-DP-1", "card0", .connected, .enabled, .on⟩]⟩,
    ⟨"card1", "amdgpu", false, [⟨"card1-DP-1", "card1", .disconnected, .enabled, .unknown⟩]⟩],
    .done []⟩

/-- The text of one card in full, and of two cards block by block. -/
theorem text_metric_by_metric_twoCards :
    (∃ samples, (survey oneCard).outcome = .ok samples ∧
      expose samples =
        "# HELP node_drm_card_enable " ++
        "Indicates on whether the card is enabled (1) or disabled (0)\n" ++
        "# TYPE node_drm_card_enable gauge\n" ++
        "node_drm_card_enable\x7bcard=\"card0\"\x7d 1\n") ∧
      ∃ samples, (survey twoCards).outcome = .ok samples ∧
        expose samples = String.ofList
          (block Schema.cardEnable [(["card0"], .one), (["card1"], .zero)] ++
            block Schema.connectorStatus [(["card0", "DP-1"], .one), (["card1", "DP-1"], .zero)] ++
            block Schema.connectorEnabled [(["card0", "DP-1"], .one), (["card1", "DP-1"], .one)] ++
            block Schema.connectorDpms [(["card0", "DP-1"], .one), (["card1", "DP-1"], .zero)]) ∧
        expose samples ≠ "" := by
  have hone := (@survey_eq_ok_iff oneCard _).mpr ⟨_, _, rfl, rfl, rfl⟩
  have htwo := (@survey_eq_ok_iff twoCards _).mpr ⟨_, _, rfl, rfl, rfl⟩
  constructor
  · obtain ⟨cards, stats, hcards, hstats, htext, -⟩ := text_metric_by_metric hone
    refine ⟨_, hone, ?_⟩
    rw [htext, ← Except.ok.inj hcards, ← Except.ok.inj hstats]
    decide +kernel
  · obtain ⟨cards, stats, hcards, hstats, htext, -, -, hempty⟩ := text_metric_by_metric htwo
    refine ⟨_, htwo, ?_, ?_⟩
    · have hrows : rows cards stats =
          [(Schema.cardEnable, [(["card0"], .one), (["card1"], .zero)]),
            (Schema.connectorStatus, [(["card0", "DP-1"], .one), (["card1", "DP-1"], .zero)]),
            (Schema.connectorEnabled, [(["card0", "DP-1"], .one), (["card1", "DP-1"], .one)]),
            (Schema.connectorDpms, [(["card0", "DP-1"], .one), (["card1", "DP-1"], .zero)])] ++
            (Schema.cardInfo :: Schema.gauges).map fun m => (m, []) := by
        rw [← Except.ok.inj hcards, ← Except.ok.inj hstats]
        rfl
      have hnone (ms : List Metric) :
          ((ms.map fun m => (m, ([] : List Entry))).flatMap fun r => block r.1 r.2) = [] := by
        simp [block]
      rw [htext, hrows, List.flatMap_append, hnone, List.append_nil]
      simp only [List.flatMap_cons, List.flatMap_nil, List.append_nil, List.append_assoc]
    · intro hnone
      obtain ⟨hnil, -⟩ := hempty.mp hnone
      rw [← Except.ok.inj hcards] at hnil
      cases hnil

end CardTelemetry.Collector
