import CardTelemetry.Proofs.Agent.Once
import CardTelemetry.Proofs.Sysfs.Order
import Mathlib

/-!
# A poll does not show the order of a directory

What the card collector finds, prints and reports is the same whichever order directories list
their names in, as long as the connectors' names are UTF-8. Log lines and the texts of faults
may differ and are not compared.
-/

namespace CardTelemetry

open Files (Name Path Tree View)
open Sysfs (ConnectorNamesAreText IsCard SameButOrder allCards allStats source)
open Collector (survey)
open Text.Utf8 (bytes)

namespace Session

/-- What one run of the card collector prints, and whether it fails, is told by its survey. -/
theorem runOne_ofSource (settings : Settings) (host : Host) (v : View) (root : Path) :
    (runOne settings host (.ofSource (source v root))).output =
        (match (survey (source v root)).outcome with
          | .ok samples => printed settings host ⟨Collector.name, samples⟩
          | .error _ => "") ∧
      (runOne settings host (.ofSource (source v root))).failures =
        (match (survey (source v root)).outcome with
          | .ok _ => 0
          | .error _ => 1) := by
  have hwithin := Sysfs.outcome_collectWithin_source v root settings.timeout
  cases hsurvey : (survey (source v root)).outcome with
  | ok samples =>
    rw [hsurvey] at hwithin
    simp [runOne, hwithin, Except.map]
  | error f =>
    rw [hsurvey] at hwithin
    simp [runOne, hwithin, Except.map]

end Session

/-- **A poll does not show the order in which directories list their names.** The cards are read
under one order exactly when they are under the other, the records always come to the same, and
so do the samples of a poll and what is printed of them. The connectors of a card come strictly in
the order of their names. -/
theorem poll_order_independent {v w : View} {root : Path} (h : SameButOrder v w)
    (htext : ∀ card, IsCard v root card → ConnectorNamesAreText v root card) :
    (∀ cards, (allCards w root).outcome = .ok cards ↔ (allCards v root).outcome = .ok cards) ∧
      (allStats w root).outcome = (allStats v root).outcome ∧
      (∀ samples, (survey (source w root)).outcome = .ok samples ↔
        (survey (source v root)).outcome = .ok samples) ∧
      (∀ settings host,
        (Session.runOne settings host (.ofSource (source w root))).output =
            (Session.runOne settings host (.ofSource (source v root))).output ∧
          (Session.runOne settings host (.ofSource (source w root))).failures =
            (Session.runOne settings host (.ofSource (source v root))).failures) ∧
      ∀ cards, (allCards v root).outcome = .ok cards → ∀ c ∈ cards,
        (c.connectors.map fun k => bytes k.name).Pairwise (· < ·) := by
  have hsurvey (samples : List Sample) := @Sysfs.outcome_survey_congr v w root h htext samples
  refine ⟨fun cards => Sysfs.outcome_allCards_congr htext h, by rw [h.allStats_congr], hsurvey, ?_,
    fun cards hcards c hc => Sysfs.pairwise_connectors htext hcards hc⟩
  intro settings host
  obtain ⟨houtput, hfailures⟩ := Session.runOne_ofSource settings host v root
  obtain ⟨houtput', hfailures'⟩ := Session.runOne_ofSource settings host w root
  rw [houtput, hfailures, houtput', hfailures']
  cases hv : (survey (source v root)).outcome with
  | ok samples =>
    rw [(hsurvey samples).mpr hv]
    exact ⟨rfl, rfl⟩
  | error f =>
    cases hw : (survey (source w root)).outcome with
    | ok samples =>
      rw [(hsurvey samples).mp hw] at hv
      cases hv
    | error g => exact ⟨rfl, rfl⟩

/-- Two connectors that are listed in one order and in the other are polled alike. -/
theorem poll_order_independent_pairTree :
    (Sysfs.pairTree 0x42 0x41 (by decide)).view.names (Path.ofString "/class/drm/card0") =
        .ok [Path.ofString "card0-B", Path.ofString "card0-A"] ∧
      (Sysfs.pairTree 0x42 0x41 (by decide)).view.reversed.names
          (Path.ofString "/class/drm/card0") =
        .ok [Path.ofString "card0-A", Path.ofString "card0-B"] ∧
      (allCards (Sysfs.pairTree 0x42 0x41 (by decide)).view.reversed (Path.ofString "/")).outcome =
        .ok [⟨"card0", "", false, [⟨"card0-A", "card0", .unknown, .unknown, .unknown⟩,
          ⟨"card0-B", "card0", .unknown, .unknown, .unknown⟩]⟩] := by
  have hcards : (Sysfs.pairTree 0x42 0x41 (by decide)).view.names
      (Files.Path.below (Path.ofString "/") Sysfs.classNames) = .ok [Path.ofString "card0"] := by
    cbv
  have hconnectors : (Sysfs.pairTree 0x42 0x41 (by decide)).view.names
      (Path.ofString "/class/drm/card0") =
        .ok [Path.ofString "card0-B", Path.ofString "card0-A"] := by cbv
  have hread : (allCards (Sysfs.pairTree 0x42 0x41 (by decide)).view (Path.ofString "/")).outcome =
      .ok [⟨"card0", "", false, [⟨"card0-A", "card0", .unknown, .unknown, .unknown⟩,
        ⟨"card0-B", "card0", .unknown, .unknown, .unknown⟩]⟩] := by cbv
  have htext : ∀ card, IsCard (Sysfs.pairTree 0x42 0x41 (by decide)).view (Path.ofString "/") card →
      ConnectorNamesAreText (Sysfs.pairTree 0x42 0x41 (by decide)).view (Path.ofString "/")
        card := by
    intro card hcard ns hns n hn _
    obtain ⟨⟨names, hnames, hin⟩, -⟩ := hcard
    rw [hcards] at hnames
    obtain rfl := Except.ok.inj hnames
    obtain rfl := List.mem_singleton.mp hin
    obtain rfl := Except.ok.inj (hconnectors.symm.trans hns)
    obtain rfl | hn := List.mem_cons.mp hn
    · exact ⟨"card0-B", rfl⟩
    · exact ⟨"card0-A", List.mem_singleton.mp hn⟩
  obtain ⟨hsame, -⟩ := poll_order_independent
    (Sysfs.sameButOrder_reversed (Sysfs.pairTree 0x42 0x41 (by decide)).view) htext
  exact ⟨hconnectors, by cbv, (hsame _).mpr hread⟩

end CardTelemetry
