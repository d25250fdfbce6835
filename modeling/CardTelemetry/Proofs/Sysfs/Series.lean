import CardTelemetry.Proofs.Sysfs.Agreement
import Mathlib

/-!
# When the series of a survey are different

Connectors are told apart by their names as they are shown, and names that are not UTF-8 can be
shown alike. It is shown that this is the only way in which a survey has a series twice: within
one card, among connectors, and never where all names are UTF-8.
-/

namespace CardTelemetry.Sysfs

open Files (Name Path Tree View)
open Text.Utf8 (bytes lossy)
open Collector (survey surveySamples)

variable {v : View} {root : Path} {cards : List Card} {stats : List CardStats}

/-- A name in a card's directory that is shown as a connector's and leads to a directory. -/
def IsConnectorName (v : View) (card : Entry) (n : Name) : Prop :=
  (∃ ns, v.names card.path = .ok ns ∧ n ∈ ns) ∧
    belongsTo card.name (Entry.ofName card.path n) = true ∧
    v.isDirectory (card.path.join n) = .ok true

/-- Two connectors of one card with different names that are shown alike. -/
def LookAlike (v : View) (root : Path) (m n : Name) : Prop :=
  ∃ ns card number, v.names (classDirectory root) = .ok ns ∧ card ∈ ns ∧ IsCardName card number ∧
    IsConnectorName v (Entry.ofName (classDirectory root) card) m ∧
    IsConnectorName v (Entry.ofName (classDirectory root) card) n ∧ m ≠ n ∧ lossy m = lossy n

theorem toList_localName {card : String} {e : Entry} (h : belongsTo card e = true) :
    e.name.toList =
      card.toList ++ '-' :: (connectorRead v card e).localName.toList := by
  obtain ⟨rest, hrest⟩ := List.isPrefixOf_iff_prefix.mp h
  have hlocal : (connectorRead v card e).localName = String.ofList rest := by
    have hprefix : (card.toList ++ ['-']).isPrefixOf? e.name.toList = some rest := by
      rw [List.isPrefixOf?_eq_some_iff_append_eq]
      exact hrest
    simp only [Connector.localName, connectorRead, hprefix]
  rw [hlocal, String.toList_ofList, ← hrest, List.append_assoc, List.singleton_append]

/-- Within a card, connectors have one local name exactly when they are shown alike. -/
theorem localName_inj {card : String} {a b : Entry} (ha : belongsTo card a = true)
    (hb : belongsTo card b = true) :
    (connectorRead v card a).localName = (connectorRead v card b).localName ↔
      a.name = b.name := by
  rw [← String.toList_inj, ← String.toList_inj, toList_localName (v := v) ha,
    toList_localName (v := v) hb, List.append_cancel_left_eq, List.cons_eq_cons]
  simp

/-- The names of connectors among those in a card's directory. -/
def connectorNames (v : View) (card : Entry) (ns : List Name) : List Name :=
  ns.filter fun n => belongsTo card.name (Entry.ofName card.path n) &&
    v.isDirectory (card.path.join n) == .ok true

theorem mem_connectorNames {card : Entry} {ns : List Name} (h : v.names card.path = .ok ns)
    {n : Name} : n ∈ connectorNames v card ns ↔ IsConnectorName v card n := by
  simp [connectorNames, IsConnectorName, h]

theorem connectorEntries_eq (card : Entry) (ns : List Name) :
    connectorEntries v card.name (ns.map (Entry.ofName card.path)) =
      (connectorNames v card ns).map (Entry.ofName card.path) := by
  rw [connectorEntries, List.filter_map]
  rfl

/-- The connectors of a card have different local names unless two of them are shown alike. -/
theorem nodup_localName_iff {e : Entry} {connectors : List Connector}
    (h : (connectorsOf v e).outcome = .ok connectors) :
    (connectors.map Connector.localName).Nodup ↔
      ∀ m n, IsConnectorName v e m → IsConnectorName v e n → lossy m = lossy n → m = n := by
  obtain ⟨es, hes, hperm⟩ := outcome_connectorsOf h
  obtain ⟨ns, hns, rfl⟩ := entries_eq_ok_iff.mp hes
  have hdistinct : (connectorNames v e ns).Nodup := (v.distinct hns).filter _
  rw [(hperm.map _).nodup_iff, connectorEntries_eq, List.map_map, List.map_map,
    List.nodup_map_iff_inj_on hdistinct]
  simp only [mem_connectorNames hns]
  constructor
  · intro hinj m n hm hn heq
    exact hinj m hm n hn ((localName_inj hm.2.1 hn.2.1).mpr heq)
  · intro hinj m hm n hn heq
    exact hinj m n hm hn ((localName_inj hm.2.1 hn.2.1).mp heq)

/-- Connectors of different cards are told apart by the cards. -/
theorem nodup_connectors_iff (hnames : (cards.map Card.name).Nodup)
    (howner : ∀ c ∈ cards, ∀ k ∈ c.connectors, k.card = c.name) :
    ((cards.flatMap Card.connectors).map fun k => [k.card, k.localName]).Nodup ↔
      ∀ c ∈ cards, (c.connectors.map Connector.localName).Nodup := by
  have hlabels (c : Card) (hc : c ∈ cards) :
      (c.connectors.map fun k => [k.card, k.localName]) =
        (c.connectors.map Connector.localName).map fun n => [c.name, n] := by
    rw [List.map_map]
    apply List.map_congr_left
    intro k hk
    rw [howner c hc k hk]
    rfl
  rw [List.map_flatMap, List.nodup_flatMap]
  constructor
  · rintro ⟨hnodup, -⟩ c hc
    have h := hnodup c hc
    rw [hlabels c hc] at h
    exact h.of_map
  · intro hnodup
    constructor
    · intro c hc
      rw [hlabels c hc]
      exact (hnodup c hc).map fun m n h => (List.cons_eq_cons.mp (List.cons_eq_cons.mp h).2).1
    · rw [List.Nodup, List.pairwise_map] at hnames
      apply hnames.imp_of_mem
      intro c d hc hd hne labels hlc hld
      obtain ⟨k, hk, rfl⟩ := List.mem_map.mp hlc
      obtain ⟨k', hk', h⟩ := List.mem_map.mp hld
      apply hne
      rw [← howner c hc k hk, ← howner d hd k' hk', (List.cons_eq_cons.mp h).1]

/-- The connectors of a survey have different labels unless two of a card are shown alike. -/
theorem nodup_connectors_iff_not_lookAlike (h : (allCards v root).outcome = .ok cards) :
    ((cards.flatMap Card.connectors).map fun k => [k.card, k.localName]).Nodup ↔
      ¬ ∃ m n, LookAlike v root m n := by
  obtain ⟨es, hes, hread⟩ := outcome_allCards_eq_ok.mp h
  obtain ⟨ns, hns, hmem, -⟩ := cardEntries_listed hes
  rw [nodup_connectors_iff (nodup_of_allCards h) fun c hc k hk => card_of_connector h hc hk]
  constructor
  · rintro hnodup ⟨m, n, ns', card, number, hns', hcard, hnumber, hm, hn, hne, heq⟩
    rw [hns] at hns'
    cases hns'
    have he := (hmem _).mpr ⟨card, hcard, ⟨number, hnumber⟩, rfl⟩
    obtain ⟨c, hc, hread⟩ := Job.exists_right_of_mem hread he
    obtain ⟨-, hconnectors⟩ := outcome_cardOf hread
    exact hne ((nodup_localName_iff hconnectors).mp (hnodup c hc) m n hm hn heq)
  · intro hnone c hc
    obtain ⟨e, he, hread⟩ := Job.exists_left_of_mem hread hc
    obtain ⟨-, hconnectors⟩ := outcome_cardOf hread
    rw [nodup_localName_iff hconnectors]
    intro m n hm hn heq
    obtain ⟨card, hcard, ⟨number, hnumber⟩, rfl⟩ := (hmem e).mp he
    by_contra hne
    exact hnone ⟨m, n, ns, card, number, hns, hcard, hnumber, hm, hn, hne, heq⟩

theorem bytes_of_lookAlike {m n : Name} (h : LookAlike v root m n) :
    ¬((∃ s, m = bytes s) ∧ ∃ s, n = bytes s) := by
  rintro ⟨⟨s, rfl⟩, t, rfl⟩
  obtain ⟨_, _, _, _, _, _, _, _, hne, heq⟩ := h
  rw [Text.Utf8.lossy_bytes, Text.Utf8.lossy_bytes] at heq
  exact hne (heq ▸ rfl)

/-- **A survey has a series twice exactly when two connectors of a card are shown alike.** Only
metrics of connectors are concerned, and one of the two names is not UTF-8. -/
theorem series_nodup_iff {samples : List Sample}
    (h : (survey (source v root)).outcome = .ok samples) :
    ((samples.map Sample.series).Nodup ↔ ¬ ∃ m n, LookAlike v root m n) ∧
      (∀ metric, metric ∉ Schema.ofConnector →
        ((ofMetric metric samples).map Sample.labelValues).Nodup) ∧
      ∀ m n, LookAlike v root m n → ¬((∃ s, m = bytes s) ∧ ∃ s, n = bytes s) := by
  obtain ⟨cards, stats, hcards, hstats, rfl⟩ := Collector.survey_eq_ok_iff.mp h
  have hnames := nodup_of_allCards hcards
  have hrecords : (stats.map CardStats.name).Nodup := by
    rw [map_name_agree hcards hstats]
    exact hnames
  have hothers (metric : Metric) (hm : metric ∉ Schema.ofConnector) :=
    Collector.nodup_labels_of_nodup hnames hrecords hm
  refine ⟨?_, hothers, fun m n => bytes_of_lookAlike⟩
  rw [nodup_series_iff_labels fun s hs => Collector.metric_mem_all hs,
    ← nodup_connectors_iff_not_lookAlike hcards]
  constructor
  · intro hall
    have h := hall Schema.connectorStatus
    rwa [Collector.labels_ofConnector (by simp [Schema.ofConnector])] at h
  · intro hconnectors metric
    by_cases hm : metric ∈ Schema.ofConnector
    · rw [Collector.labels_ofConnector hm]
      exact hconnectors
    · exact hothers metric hm

/-- A card with two connectors whose names differ in their last byte. -/
def pairTree (a b : UInt8) (h : a ≠ b) : Tree where
  nodes :=
    [(["class"].map Path.ofString, .directory),
      (["class", "drm"].map Path.ofString, .directory),
      (["class", "drm", "card0"].map Path.ofString, .directory),
      (["class", "drm", "card0"].map Path.ofString ++ [Path.ofString "card0-" ++ [a]], .directory),
      (["class", "drm", "card0"].map Path.ofString ++ [Path.ofString "card0-" ++ [b]], .directory)]
  distinct := by simp [h]

/-- A single name that is not UTF-8 does no harm. -/
theorem series_nodup_pairTree :
    ∃ samples,
      (survey (source (pairTree 0x41 0xFF (by decide)).view (Path.ofString "/"))).outcome =
          .ok samples ∧
        (samples.map Sample.series).Nodup := by
  have hsurvey :
      (survey (source (pairTree 0x41 0xFF (by decide)).view (Path.ofString "/"))).outcome =
        .ok (surveySamples
          [⟨"card0", "", false,
            [⟨"card0-A", "card0", .unknown, .unknown, .unknown⟩,
              ⟨"card0-\uFFFD", "card0", .unknown, .unknown, .unknown⟩]⟩]
          [.nameOnly "card0"]) := by cbv
  refine ⟨_, hsurvey, (series_nodup_iff hsurvey).1.mpr ?_⟩
  rintro ⟨m, n, ns, card, number, hns, hcard, -, ⟨⟨ms, hms, hm⟩, -⟩, ⟨⟨ms', hms', hn⟩, -⟩, hne, heq⟩
  have hcards : (pairTree 0x41 0xFF (by decide)).view.names (classDirectory (Path.ofString "/")) =
      .ok [Path.ofString "card0"] := by cbv
  rw [hcards] at hns
  cases hns
  rw [List.mem_singleton] at hcard
  subst hcard
  have hconnectors : (pairTree 0x41 0xFF (by decide)).view.names
      (Entry.ofName (classDirectory (Path.ofString "/")) (Path.ofString "card0")).path =
        .ok [Path.ofString "card0-A", Path.ofString "card0-" ++ [0xFF]] := by cbv
  have hshown : lossy (Path.ofString "card0-A") ≠ lossy (Path.ofString "card0-" ++ [0xFF]) := by
    decide
  rw [hconnectors] at hms hms'
  cases hms
  cases hms'
  simp only [List.mem_cons, List.not_mem_nil, or_false] at hm hn
  rcases hm with rfl | rfl <;> rcases hn with rfl | rfl
  · exact hne rfl
  · exact hshown heq
  · exact hshown heq.symm
  · exact hne rfl

/-- Two names that are not UTF-8 and are shown alike give the same series twice. -/
theorem series_not_nodup_pairTree :
    ∃ samples,
      (survey (source (pairTree 0xFE 0xFF (by decide)).view (Path.ofString "/"))).outcome =
          .ok samples ∧
        ¬(samples.map Sample.series).Nodup := by
  refine ⟨surveySamples
    [⟨"card0", "", false,
      [⟨"card0-\uFFFD", "card0", .unknown, .unknown, .unknown⟩,
        ⟨"card0-\uFFFD", "card0", .unknown, .unknown, .unknown⟩]⟩]
    [.nameOnly "card0"], ?_, ?_⟩
  · cbv
  · decide +kernel

end CardTelemetry.Sysfs
