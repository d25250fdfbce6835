import CardTelemetry.Files.Tree
import CardTelemetry.Proofs.Card.Samples
import CardTelemetry.Proofs.Sysfs.Listing
import CardTelemetry.Proofs.Sysfs.Reading
import Mathlib

/-!
# The two readings of a tree agree

The cards and their records are read by two scans of the same directory. Both list the same
names in the same order, and no name twice, so that looking up a record's driver by the first
card of its name finds the card it was read from. The names may be any bytes; a tree that
changes between the scans is not considered.
-/

namespace CardTelemetry.Sysfs

open Files (Name Path Tree View)
open Text.Utf8 (bytes)
open Collector (enableSample infoSample firstDriver noteUnlisted survey surveySamples)

variable {v : View} {root : Path} {cards : List Card} {stats : List CardStats}

theorem map_name_of_allCards (h : (allCards v root).outcome = .ok cards) :
    ∃ es, cardEntries v root = .ok es ∧ cards.map Card.name = es.map Entry.name := by
  obtain ⟨es, hes, hread⟩ := outcome_allCards_eq_ok.mp h
  exact ⟨es, hes, Job.map_eq_of_forall₂ (fun e c hc => (outcome_cardOf hc).1) hread⟩

theorem map_name_of_allStats (h : (allStats v root).outcome = .ok stats) :
    ∃ es, cardEntries v root = .ok es ∧ stats.map CardStats.name = es.map Entry.name := by
  obtain ⟨es, hes, hread⟩ := outcome_allStats_eq_ok.mp h
  exact ⟨es, hes, Job.map_eq_of_forall₂ (fun e s hs => name_of_statsOf hs) hread⟩

theorem map_name_agree (hcards : (allCards v root).outcome = .ok cards)
    (hstats : (allStats v root).outcome = .ok stats) :
    stats.map CardStats.name = cards.map Card.name := by
  obtain ⟨es, hes, hcards⟩ := map_name_of_allCards hcards
  obtain ⟨es', hes', hstats⟩ := map_name_of_allStats hstats
  rw [hes] at hes'
  cases hes'
  rw [hcards, hstats]

theorem map_bytes_of_allCards (h : (allCards v root).outcome = .ok cards) :
    ∃ es, cardEntries v root = .ok es ∧
      (cards.map fun c => bytes c.name) = es.map fun e => bytes e.name := by
  obtain ⟨es, hes, hnames⟩ := map_name_of_allCards h
  refine ⟨es, hes, ?_⟩
  have hbytes := congrArg (List.map bytes) hnames
  rwa [List.map_map, List.map_map] at hbytes

/-- The names of the cards, as bytes, are those of the directory's entries that are cards. -/
theorem mem_names_of_allCards (h : (allCards v root).outcome = .ok cards) :
    ∃ ns, v.names (classDirectory root) = .ok ns ∧
      ∀ n, (n ∈ cards.map fun c => bytes c.name) ↔ n ∈ ns ∧ ∃ number, IsCardName n number := by
  obtain ⟨es, hes, hbytes⟩ := map_bytes_of_allCards h
  obtain ⟨ns, hns, hmem, -⟩ := cardEntries_listed hes
  refine ⟨ns, hns, fun n => ?_⟩
  rw [hbytes, List.mem_map]
  constructor
  · rintro ⟨e, he, rfl⟩
    obtain ⟨n, hn, ⟨number, hnumber⟩, rfl⟩ := (hmem e).mp he
    rw [bytes_name_of_isCardName hnumber]
    exact ⟨hn, number, hnumber⟩
  · rintro ⟨hn, number, hnumber⟩
    exact ⟨_, (hmem _).mpr ⟨n, hn, ⟨number, hnumber⟩, rfl⟩, bytes_name_of_isCardName hnumber⟩

theorem pairwise_of_allCards (h : (allCards v root).outcome = .ok cards) :
    (cards.map fun c => bytes c.name).Pairwise CardBefore := by
  obtain ⟨es, hes, hbytes⟩ := map_bytes_of_allCards h
  obtain ⟨ns, hns, -, hpairwise⟩ := cardEntries_listed hes
  rw [hbytes, List.pairwise_map]
  exact hpairwise

theorem nodup_of_allCards (h : (allCards v root).outcome = .ok cards) :
    (cards.map Card.name).Nodup := by
  have hbytes : ((cards.map Card.name).map bytes).Nodup := by
    rw [List.map_map]
    exact (pairwise_of_allCards h).imp CardBefore.ne
  exact hbytes.of_map

theorem card_of_connector (h : (allCards v root).outcome = .ok cards) {c : Card} (hc : c ∈ cards)
    {k : Connector} (hk : k ∈ c.connectors) : k.card = c.name := by
  obtain ⟨es, -, hread⟩ := outcome_allCards_eq_ok.mp h
  obtain ⟨e, -, he⟩ := Job.exists_left_of_mem hread hc
  obtain ⟨hname, hconnectors⟩ := outcome_cardOf he
  obtain ⟨below, -, hperm⟩ := outcome_connectorsOf hconnectors
  obtain ⟨e', -, rfl⟩ := List.mem_map.mp (hperm.mem_iff.mp hk)
  exact hname.symm

theorem firstDriver_eq (h : (cards.map Card.name).Nodup) {c : Card} (hc : c ∈ cards) :
    firstDriver cards c.name = c.driver := by
  rw [firstDriver, Collector.filter_eq_singleton h hc]
  rfl

/-- No event of a survey is about a record without a card. -/
theorem not_unlisted (hcards : (allCards v root).outcome = .ok cards)
    (hstats : (allStats v root).outcome = .ok stats) (name : String) :
    .noted (.unlistedCard name) ∉ (survey (source v root)).steps := by
  have hquiet : (stats.flatMap fun s => (noteUnlisted cards s).steps) = [] := by
    rw [List.flatMap_eq_nil_iff]
    intro s hs
    have hname : s.name ∈ cards.map Card.name :=
      map_name_agree hcards hstats ▸ List.mem_map_of_mem hs
    obtain ⟨c, hc, heq⟩ := List.mem_map.mp hname
    have hany : (cards.any fun c => c.name = s.name) = true :=
      List.any_eq_true.mpr ⟨c, hc, decide_eq_true heq⟩
    rw [noteUnlisted, if_pos hany]
    rfl
  rw [@Collector.steps_survey (source v root) cards stats hcards hstats, hquiet]
  intro h
  obtain ⟨hc, hs⟩ := allSteps_source v root
  simp only [List.mem_cons, List.mem_append, List.not_mem_nil, or_false, reduceCtorEq,
    false_or] at h
  rcases h with h | h
  · obtain ⟨_, _, h⟩ := hc _ h
    cases h
  · obtain ⟨_, _, h⟩ := hs _ h
    cases h

/-- Every card's information carries that card's own driver. -/
theorem drivers_agree (hcards : (allCards v root).outcome = .ok cards)
    (hstats : (allStats v root).outcome = .ok stats) :
    (ofMetric Schema.cardInfo (surveySamples cards stats)).map
        (fun s => (s.label? "card", s.label? "driver")) =
      cards.map fun c => (some c.name, some c.driver) := by
  rw [Collector.ofMetric_cardInfo, List.map_map]
  have hrecords : (stats.map fun s => (some s.name, some (firstDriver cards s.name))) =
      cards.map fun c => (some c.name, some (firstDriver cards c.name)) := by
    have h := congrArg (List.map fun n => (some n, some (firstDriver cards n)))
      (map_name_agree hcards hstats)
    rwa [List.map_map, List.map_map] at h
  change (stats.map fun s => (some s.name, some (firstDriver cards s.name))) = _
  rw [hrecords]
  apply List.map_congr_left
  intro c hc
  rw [firstDriver_eq (nodup_of_allCards hcards) hc]

/-- The card that a connector's sample names has a single sample of its own. -/
theorem single_cardEnable (hcards : (allCards v root).outcome = .ok cards) {s : Sample}
    (hs : s ∈ surveySamples cards stats) (hmetric : s.metric ∈ Schema.ofConnector) :
    ∃ card e, s.label? "card" = some card ∧
      (ofMetric Schema.cardEnable (surveySamples cards stats)).filter
        (fun e => e.label? "card" = some card) = [e] := by
  have hlabels : s.labelValues ∈
      (cards.flatMap Card.connectors).map fun c => [c.card, c.localName] := by
    rw [← Collector.labels_ofConnector hmetric]
    exact List.mem_map_of_mem (mem_ofMetric.mpr ⟨hs, rfl⟩)
  obtain ⟨k, hk, hvalues⟩ := List.mem_map.mp hlabels
  obtain ⟨c, hc, hk⟩ := List.mem_flatMap.mp hk
  have hcard : s.label? "card" = some c.name := by
    rw [← card_of_connector hcards hc hk, Sample.label?, Sample.labels, ← hvalues]
    simp only [Schema.ofConnector, List.mem_cons, List.not_mem_nil, or_false] at hmetric
    rcases hmetric with hm | hm | hm <;> rw [hm] <;> rfl
  refine ⟨c.name, enableSample c, hcard, ?_⟩
  exact Collector.ofCard_eq_singleton Collector.ofMetric_cardEnable (fun _ => rfl)
    (nodup_of_allCards hcards) hc

/-- **The cards and the records of a tree agree.** Both list each card of the directory once and
nothing else, in the order of numbers and names; every record is told the driver of the card it
was read from, no record is without a card, and each sample of a connector names a card that has
exactly one sample of its own. -/
theorem two_readings_agree (hcards : (allCards v root).outcome = .ok cards)
    (hstats : (allStats v root).outcome = .ok stats) :
    stats.map CardStats.name = cards.map Card.name ∧
      (∃ ns, v.names (classDirectory root) = .ok ns ∧
        ∀ n, (n ∈ cards.map fun c => bytes c.name) ↔ n ∈ ns ∧ ∃ number, IsCardName n number) ∧
      (cards.map fun c => bytes c.name).Pairwise CardBefore ∧
      (cards.map Card.name).Nodup ∧
      ∃ samples, (survey (source v root)).outcome = .ok samples ∧
        (ofMetric Schema.cardInfo samples).map
            (fun s => (s.label? "card", s.label? "driver")) =
          cards.map (fun c => (some c.name, some c.driver)) ∧
        (∀ name, .noted (.unlistedCard name) ∉ (survey (source v root)).steps) ∧
        ∀ s ∈ samples, s.metric ∈ Schema.ofConnector →
          ∃ card e, s.label? "card" = some card ∧
            (ofMetric Schema.cardEnable samples).filter
              (fun e => e.label? "card" = some card) = [e] :=
  ⟨map_name_agree hcards hstats, mem_names_of_allCards hcards, pairwise_of_allCards hcards,
    nodup_of_allCards hcards, _, Collector.survey_eq_ok_iff.mpr ⟨cards, stats, hcards, hstats, rfl⟩,
    drivers_agree hcards hstats, not_unlisted hcards hstats,
    fun _ hs hmetric => single_cardEnable hcards hs hmetric⟩

/-- A directory with two cards of one number, one of them a link to the other, beside entries that
only look like cards. -/
def twinTree : Tree where
  nodes :=
    [(["class"].map Path.ofString, .directory),
      (["class", "drm"].map Path.ofString, .directory),
      (["class", "drm", "card"].map Path.ofString, .directory),
      (["class", "drm"].map Path.ofString ++ [Path.ofString "card1" ++ [0xFF]], .directory),
      (["class", "drm", "card1"].map Path.ofString, .directory),
      (["class", "drm", "card1", "card1-DP-1"].map Path.ofString, .directory),
      (["class", "drm", "card1", "device"].map Path.ofString, .directory),
      (["class", "drm", "card1", "device", "uevent"].map Path.ofString,
        .file (Path.ofString "DRIVER=amdgpu")),
      (["class", "drm", "card01"].map Path.ofString, .link (Path.ofString "card1"))]
  distinct := by decide

theorem two_readings_agree_twinTree :
    (allCards twinTree.view (Path.ofString "/")).outcome =
        .ok [⟨"card01", "amdgpu", false, []⟩,
          ⟨"card1", "amdgpu", false,
            [⟨"card1-DP-1", "card1", .unknown, .unknown, .unknown⟩]⟩] ∧
      (allStats twinTree.view (Path.ofString "/")).outcome =
        .ok [.nameOnly "card01", .nameOnly "card1"] ∧
      ∃ samples, (survey (source twinTree.view (Path.ofString "/"))).outcome = .ok samples ∧
        (ofMetric Schema.cardInfo samples).map
            (fun s => (s.label? "card", s.label? "driver")) =
          [(some "card01", some "amdgpu"), (some "card1", some "amdgpu")] := by
  have hcards : (allCards twinTree.view (Path.ofString "/")).outcome =
      .ok [⟨"card01", "amdgpu", false, []⟩,
        ⟨"card1", "amdgpu", false,
          [⟨"card1-DP-1", "card1", .unknown, .unknown, .unknown⟩]⟩] := by cbv
  have hstats : (allStats twinTree.view (Path.ofString "/")).outcome =
      .ok [.nameOnly "card01", .nameOnly "card1"] := by cbv
  obtain ⟨-, -, -, -, samples, hsurvey, hdrivers, -⟩ := two_readings_agree hcards hstats
  exact ⟨hcards, hstats, samples, hsurvey, hdrivers⟩

end CardTelemetry.Sysfs
