import CardTelemetry.Proofs.Sysfs.Place
import CardTelemetry.Proofs.Sysfs.Series

/-!
# Directories may be listed in any order

Cards are sorted by number and name and connectors by name, so a survey does not show the order
in which a directory lists its names. That two names of connectors are never shown alike is
needed for this, and follows where the names are UTF-8. Which fault a reading of cards ends with
may depend on the order, when several entries cannot be looked at, and is not considered.
-/

namespace CardTelemetry

namespace Files.View

/-- A view that lists every directory from its last name to its first. -/
def reversed (v : View) : View where
  names p := (v.names p).map List.reverse
  content := v.content
  target := v.target
  isDirectory := v.isDirectory
  distinct := by
    intro p ns h
    cases hns : v.names p with
    | error cause =>
      rw [hns] at h
      cases h
    | ok ms =>
      rw [hns] at h
      cases h
      exact List.nodup_reverse.mpr (v.distinct hns)

theorem names_reversed (v : View) (p : Path) :
    v.reversed.names p = (v.names p).map List.reverse := rfl

end Files.View

namespace Sysfs

open Files (Name Path View)
open Files.Path (below)
open Text.Utf8 (bytes lossy)
open Collector (survey)

/-- Two views of one tree that may list the names in a directory in different orders. -/
structure SameButOrder (v w : View) : Prop where
  names : ∀ p, (∃ cause, v.names p = .error cause ∧ w.names p = .error cause) ∨
    ∃ ns ms, v.names p = .ok ns ∧ w.names p = .ok ms ∧ ns.Perm ms
  content : w.content = v.content
  target : w.target = v.target
  isDirectory : w.isDirectory = v.isDirectory

theorem sameButOrder_reversed (v : View) : SameButOrder v v.reversed where
  names := by
    intro p
    cases hns : v.names p with
    | error cause =>
      left
      rw [Files.View.names_reversed, hns]
      exact ⟨cause, rfl, rfl⟩
    | ok ns =>
      right
      rw [Files.View.names_reversed, hns]
      exact ⟨ns, ns.reverse, rfl, rfl, ns.reverse_perm.symm⟩
  content := rfl
  target := rfl
  isDirectory := rfl

/-- The names in a card's directory that begin like its connectors' are UTF-8. -/
def ConnectorNamesAreText (v : View) (root : Path) (card : Name) : Prop :=
  ∀ ns, v.names (below root (cardNames card)) = .ok ns →
    ∀ n ∈ ns, card ++ Path.ofString "-" <+: n → ∃ s, n = bytes s

variable {v w : View} {root : Path}

/-! ### What is not listed -/

namespace SameButOrder

theorem text_congr (h : SameButOrder v w) (p : Path) : w.text p = v.text p := by
  rw [View.text, View.text, h.content]

theorem driver_congr (h : SameButOrder v w) (device : Path) : driver w device = driver v device := by
  simp only [driver, linkedDriver, listedDriver, required, h.target, h.text_congr]

theorem requiredNumber_congr (h : SameButOrder v w) (p : Path) (field : String) :
    requiredNumber w p field = requiredNumber v p field := by
  simp only [requiredNumber, required, h.text_congr]

theorem statsOf_congr (h : SameButOrder v w) (e : Entry) : statsOf w e = statsOf v e := by
  simp only [statsOf, deviceStats, optionalNumber, optionalText, optional, listedDriver,
    required, h.text_congr]

theorem connectorRead_congr (h : SameButOrder v w) (card : String) (e : Entry) :
    connectorRead w card e = connectorRead v card e := by
  simp only [connectorRead, attributeText, attributeAt, h.text_congr]

theorem connectorEntries_congr (h : SameButOrder v w) (card : String) (es : List Entry) :
    connectorEntries w card es = connectorEntries v card es := by
  simp only [connectorEntries, h.isDirectory]

end SameButOrder

/-! ### Cards -/

/-- The cards are listed in the same order. -/
theorem SameButOrder.cardEntries_congr (h : SameButOrder v w) (root : Path) :
    cardEntries w root = cardEntries v root := by
  obtain ⟨cause, hv, hw⟩ | ⟨ns, ms, hv, hw, hperm⟩ := h.names (classDirectory root)
  · simp [cardEntries, entries, hv, hw]
  · have hcards : cardEntries v root =
        .ok (cardsAmong (ns.map (Entry.ofName (classDirectory root)))) := by
      simp [cardEntries, entries, hv, Except.map]
    have hcards' : cardEntries w root =
        .ok (cardsAmong (ms.map (Entry.ofName (classDirectory root)))) := by
      simp [cardEntries, entries, hw, Except.map]
    obtain ⟨-, -, -, hsorted⟩ := cardEntries_listed hcards
    obtain ⟨-, -, -, hsorted'⟩ := cardEntries_listed hcards'
    rw [hcards, hcards']
    congr 1
    apply List.Perm.eq_of_pairwise _ hsorted' hsorted (cardsAmong_perm (hperm.symm.map _))
    intro a b _ _ hab hba
    exact absurd hba (entryBefore_asymm hab)

/-! ### Connectors -/

/-- Connectors are sorted by their names. -/
theorem pairwise_mergeSort_connectors (cs : List Connector) :
    (cs.mergeSort connectorNotAfter).Pairwise fun a b => bytes a.name ≤ bytes b.name := by
  have htotal (a b : Connector) : (connectorNotAfter a b || connectorNotAfter b a) = true := by
    rw [Bool.or_eq_true]
    exact Text.notAfter_total a.name b.name
  have htrans (a b c : Connector) (hab : connectorNotAfter a b = true)
      (hbc : connectorNotAfter b c = true) : connectorNotAfter a c = true :=
    Text.notAfter_trans hab hbc
  apply (List.pairwise_mergeSort htrans htotal cs).imp
  intro a b hab
  exact Text.notAfter_iff.mp hab

/-- Connectors with different names are sorted strictly. -/
theorem pairwise_sorted {cs : List Connector} (h : (cs.map Connector.name).Nodup) :
    ((cs.mergeSort connectorNotAfter).map fun k => bytes k.name).Pairwise (· < ·) := by
  have hdistinct : ((cs.mergeSort connectorNotAfter).map Connector.name).Nodup :=
    ((List.mergeSort_perm _ _).map _).nodup_iff.mpr h
  rw [List.pairwise_map]
  apply ((pairwise_mergeSort_connectors cs).and (List.pairwise_map.mp hdistinct)).imp
  intro a b hab
  exact Text.before_iff.mp (Text.before_of_notAfter (Text.notAfter_iff.mpr hab.1) hab.2)

/-- Connectors with different names are sorted in one way. -/
theorem sorted_eq_of_perm {cs cs' : List Connector} (hperm : cs.Perm cs')
    (h : (cs.map Connector.name).Nodup) :
    cs.mergeSort connectorNotAfter = cs'.mergeSort connectorNotAfter := by
  have h' : (cs'.map Connector.name).Nodup := (hperm.map _).nodup_iff.mp h
  have hsorted : (cs.mergeSort connectorNotAfter).Perm (cs'.mergeSort connectorNotAfter) :=
    ((List.mergeSort_perm _ _).trans hperm).trans (List.mergeSort_perm _ _).symm
  apply List.Perm.eq_of_pairwise _ (List.pairwise_map.mp (pairwise_sorted h))
    (List.pairwise_map.mp (pairwise_sorted h')) hsorted
  intro a b _ _ hab hba
  exact absurd (List.lt_trans hab hba) (List.lt_irrefl _)

section Card

variable {card : Name} {number : Nat}

/-- The connectors of a card have different names where the names are text. -/
theorem nodup_connectorRead (hcard : IsCardName card number)
    (htext : ConnectorNamesAreText v root card) {ns : List Name}
    (hns : v.names (below root (cardNames card)) = .ok ns) :
    (((connectorEntries v (cardEntry root card).name
        (ns.map (Entry.ofName (cardEntry root card).path))).map
      (connectorRead v (cardEntry root card).name)).map Connector.name).Nodup := by
  have hshown : (((connectorEntries v (cardEntry root card).name
        (ns.map (Entry.ofName (cardEntry root card).path))).map
      (connectorRead v (cardEntry root card).name)).map Connector.name) =
        (connectorNames v (cardEntry root card) ns).map lossy := by
    rw [connectorEntries_eq, List.map_map, List.map_map]
    rfl
  have hbytes {n : Name} (hn : n ∈ connectorNames v (cardEntry root card) ns) :
      bytes (lossy n) = n := by
    obtain ⟨⟨ns', hns', hin⟩, hbelongs, -⟩ := (mem_connectorNames hns).mp hn
    obtain ⟨s, rfl⟩ := htext ns' hns' n hin ((belongsTo_iff hcard).mp hbelongs)
    rw [Text.Utf8.lossy_bytes]
  have hdistinct : (connectorNames v (cardEntry root card) ns).Nodup := (v.distinct hns).filter _
  rw [hshown]
  apply hdistinct.map_on
  intro m hm n hn heq
  rw [← hbytes hm, ← hbytes hn, heq]

theorem outcome_connectorsOf_congr (h : SameButOrder v w) (hcard : IsCardName card number)
    (htext : ConnectorNamesAreText v root card) {cs : List Connector} :
    (connectorsOf w (cardEntry root card)).outcome = .ok cs ↔
      (connectorsOf v (cardEntry root card)).outcome = .ok cs := by
  rw [outcome_connectorsOf_eq_ok_iff, outcome_connectorsOf_eq_ok_iff]
  simp only [h.connectorEntries_congr, h.isDirectory, funext (h.connectorRead_congr _)]
  obtain ⟨cause, hv, hw⟩ | ⟨ns, ms, hv, hw, hperm⟩ := h.names (cardEntry root card).path
  · simp [entries, hv, hw]
  · have hentries : (ns.map (Entry.ofName (cardEntry root card).path)).Perm
        (ms.map (Entry.ofName (cardEntry root card).path)) := hperm.map _
    have hfound : (connectorEntries v (cardEntry root card).name
        (ns.map (Entry.ofName (cardEntry root card).path))).Perm
          (connectorEntries v (cardEntry root card).name
            (ms.map (Entry.ofName (cardEntry root card).path))) := hentries.filter _
    have hsorted := sorted_eq_of_perm (hfound.map _) (nodup_connectorRead hcard htext hv)
    simp only [entries, hv, hw, Except.ok.injEq, exists_eq_left', hentries.mem_iff, hsorted]

theorem outcome_cardOf_congr (h : SameButOrder v w) (hcard : IsCardName card number)
    (htext : ConnectorNamesAreText v root card) {c : Card} :
    (cardOf w (cardEntry root card)).outcome = .ok c ↔
      (cardOf v (cardEntry root card)).outcome = .ok c := by
  rw [outcome_cardOf_eq_ok_iff, outcome_cardOf_eq_ok_iff, h.driver_congr, h.requiredNumber_congr,
    outcome_connectorsOf_congr h hcard htext]

end Card

/-! ### All cards -/

section Text

variable (htext : ∀ card, IsCard v root card → ConnectorNamesAreText v root card)

include htext

theorem outcome_allCards_congr (h : SameButOrder v w) {cards : List Card} :
    (allCards w root).outcome = .ok cards ↔ (allCards v root).outcome = .ok cards := by
  simp only [allCards, Job.bind_eq_andThen, Job.outcome_andThen_eq_ok, Job.outcome_ofExcept,
    h.cardEntries_congr]
  refine exists_congr fun es => and_congr_right fun hes => ?_
  apply Job.outcome_each_eq_ok_congr
  intro e he c
  obtain ⟨card, hcard, rfl⟩ := (mem_cardEntries_iff hes).mp he
  obtain ⟨number, hnumber⟩ := hcard.2
  exact outcome_cardOf_congr h hnumber (htext card hcard)

/-- The connectors of a card come strictly in the order of their names. -/
theorem pairwise_connectors {cards : List Card} (h : (allCards v root).outcome = .ok cards)
    {c : Card} (hc : c ∈ cards) : (c.connectors.map fun k => bytes k.name).Pairwise (· < ·) := by
  obtain ⟨es, hes, hread⟩ := outcome_allCards_eq_ok.mp h
  obtain ⟨e, he, hread⟩ := Job.exists_left_of_mem hread hc
  obtain ⟨card, hcard, rfl⟩ := (mem_cardEntries_iff hes).mp he
  obtain ⟨-, hconnectors⟩ := outcome_cardOf hread
  obtain ⟨es, hes, -, hsorted⟩ := outcome_connectorsOf_eq_ok_iff.mp hconnectors
  obtain ⟨ns, hns, rfl⟩ := entries_eq_ok_iff.mp hes
  obtain ⟨number, hnumber⟩ := hcard.2
  rw [hsorted]
  exact pairwise_sorted (nodup_connectorRead hnumber (htext card hcard) hns)

end Text

theorem SameButOrder.allStats_congr (h : SameButOrder v w) (root : Path) :
    allStats w root = allStats v root := by
  simp only [allStats, h.cardEntries_congr, funext h.statsOf_congr]

theorem outcome_survey_congr (h : SameButOrder v w)
    (htext : ∀ card, IsCard v root card → ConnectorNamesAreText v root card)
    {samples : List Sample} :
    (survey (source w root)).outcome = .ok samples ↔
      (survey (source v root)).outcome = .ok samples := by
  rw [Collector.survey_eq_ok_iff, Collector.survey_eq_ok_iff]
  simp only [source, outcome_allCards_congr htext h, h.allStats_congr]

end Sysfs

end CardTelemetry
