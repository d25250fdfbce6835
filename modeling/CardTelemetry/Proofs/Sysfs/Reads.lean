import CardTelemetry.Proofs.Sysfs.Failure
import CardTelemetry.Proofs.Sysfs.Record
import CardTelemetry.Proofs.Sysfs.Series
import Mathlib

/-!
# What a survey reads of a tree

The questions that a survey puts to a tree, one after another, up to the first whose answer ends
it, and the samples as the answers make them. A question is a path and what is asked of it; that
two paths can lead to the same file plays no part.
-/

namespace CardTelemetry

open Files (Name Path View)

namespace Sysfs

open Collector (connectorSamples enableSample firstDriver gaugeSamples infoSample survey
  surveySamples)
open Files.Path (below)
open Text.Utf8 (bytes)

/-- A question that is put to a tree. -/
inductive Read where
  | names (p : Path)
  | text (p : Path)
  | target (p : Path)
  | isDirectory (p : Path)
deriving DecidableEq

namespace Read

def path : Read → Path
  | names p => p
  | text p => p
  | target p => p
  | isDirectory p => p

/-- Two views give the same answer. -/
def Same (v w : View) : Read → Prop
  | names p => w.names p = v.names p
  | text p => w.text p = v.text p
  | target p => w.target p = v.target p
  | isDirectory p => w.isDirectory p = v.isDirectory p

instance (v w : View) : DecidablePred (Same v w)
  | names p => inferInstanceAs (Decidable (w.names p = v.names p))
  | text p => inferInstanceAs (Decidable (w.text p = v.text p))
  | target p => inferInstanceAs (Decidable (w.target p = v.target p))
  | isDirectory p => inferInstanceAs (Decidable (w.isDirectory p = v.isDirectory p))

end Read

/-! ### Reads in sequence -/

section Sequence

variable {α β : Type} {P : Read → Prop}

/-- The reads of a part, and those of what follows where the part ends well. -/
def readsThen (reads : List Read) (r : Except Fault α) (next : α → List Read) : List Read :=
  reads ++ match r with
    | .ok a => next a
    | .error _ => []

/-- The reads of a job for each member of a list, up to the first that fails. -/
def readsEach (job : α → Job β) (reads : α → List Read) : List α → List Read
  | [] => []
  | a :: rest => readsThen (reads a) (job a).outcome fun _ => readsEach job reads rest

theorem forall_mem_readsThen {reads : List Read} {r : Except Fault α} {next : α → List Read} :
    (∀ q ∈ readsThen reads r next, P q) ↔
      (∀ q ∈ reads, P q) ∧ ∀ a, r = .ok a → ∀ q ∈ next a, P q := by
  unfold readsThen
  rw [List.forall_mem_append]
  cases r with
  | error f => simp
  | ok a => simp

theorem forall_mem_readsEach {job : α → Job β} {reads : α → List Read} {as : List α}
    (h : ∀ a ∈ as, ∀ q ∈ reads a, P q) : ∀ q ∈ readsEach job reads as, P q := by
  induction as with
  | nil => simp [readsEach]
  | cons a as ih =>
    rw [List.forall_mem_cons] at h
    exact forall_mem_readsThen.mpr ⟨h.1, fun _ _ => ih h.2⟩

end Sequence

/-! ### The reads of a survey -/

/-- The files of a connector's attributes. -/
def attributeFiles : List String := ["status", "enabled", "dpms"]

/-- The files of a record, numbers first. -/
def recordFiles : List String := numberFiles ++ textFiles.map Prod.snd

/-- The text of a file in a directory. -/
def Read.ofFile (directory : Path) (file : String) : Read :=
  .text (directory.join (Path.ofString file))

def driverReads (v : View) (device : Path) : List Read :=
  readsThen [.target (device.join (Path.ofString "driver"))] (linkedDriver v device) fun linked =>
    if linked = none then [.ofFile device "uevent"] else []

def connectorReads (v : View) (e : Entry) : List Read :=
  .isDirectory e.path ::
    if v.isDirectory e.path == .ok true then attributeFiles.map (Read.ofFile e.path) else []

def cardReads (v : View) (e : Entry) : List Read :=
  let device := deviceOf e.path
  readsThen (driverReads v device) (driver v device) fun _ =>
    readsThen [.ofFile device "enable"]
        (requiredNumber v (device.join (Path.ofString "enable")) "enable") fun _ =>
      readsThen [.names e.path] (entries v e.path) fun es =>
        readsEach (connectorAt v e.name) (connectorReads v) (es.filter (belongsTo e.name))

/-- The reads of some numbers of a record, and of its texts after them. -/
def recordReadsFrom (v : View) (device : Path) (files : List String) : List Read :=
  readsThen (readsEach (optionalNumber v device) (fun file => [.ofFile device file]) files)
    (Job.each (optionalNumber v device) files).outcome fun _ =>
      (textFiles.map Prod.snd).map (Read.ofFile device)

def recordReads (v : View) (e : Entry) : List Read :=
  let device := deviceOf e.path
  readsThen [.ofFile device "uevent"] (listedDriver v device) fun listed =>
    if listed = some "amdgpu" then recordReadsFrom v device numberFiles else []

/-- The reads of a job for each card. -/
def eachCardReads {β : Type} (v : View) (root : Path) (job : Entry → Job β)
    (reads : Entry → List Read) : List Read :=
  readsThen [.names (classDirectory root)] (cardEntries v root) (readsEach job reads)

/-- All reads of a survey, those of the cards first. -/
def surveyReads (v : View) (root : Path) : List Read :=
  readsThen (eachCardReads v root (cardOf v) (cardReads v)) (allCards v root).outcome fun _ =>
    eachCardReads v root (statsOf v) (recordReads v)

/-- Reads of a survey are of the directory of cards, of a card or of a record. -/
theorem forall_mem_surveyReads {v : View} {root : Path} {P : Read → Prop}
    (hclass : P (.names (classDirectory root)))
    (hcard : ∀ card, IsCard v root card → ∀ q ∈ cardReads v (cardEntry root card), P q)
    (hrecord : ∀ card, IsCard v root card → ∀ q ∈ recordReads v (cardEntry root card), P q) :
    ∀ q ∈ surveyReads v root, P q := by
  have heach {β : Type} {job : Entry → Job β} {reads : Entry → List Read}
      (hreads : ∀ card, IsCard v root card → ∀ q ∈ reads (cardEntry root card), P q) :
      ∀ q ∈ eachCardReads v root job reads, P q := by
    rw [eachCardReads, forall_mem_readsThen]
    refine ⟨List.forall_mem_singleton.mpr hclass, ?_⟩
    intro es hes
    apply forall_mem_readsEach
    intro e he
    obtain ⟨card, hcard, rfl⟩ := (mem_cardEntries_iff hes).mp he
    exact hreads card hcard
  exact forall_mem_readsThen.mpr ⟨heach hcard, fun _ _ => heach hrecord⟩

/-- Reads of a card are of the link and the files of its device, of its directory, and of what is
named after it there; the `uevent` is read only where the link names no driver. -/
theorem forall_mem_cardReads {v : View} {root : Path} {card : Name} {number : Nat}
    (P : Read → Prop) (hcard : IsCardName card number)
    (hlink : P (.target (below root (deviceFile card "driver"))))
    (huevent : linkName? v (below root (deviceFile card "driver")) = none →
      P (.text (below root (deviceFile card "uevent"))))
    (henable : P (.text (below root (deviceFile card "enable"))))
    (hlisting : P (.names (below root (cardNames card))))
    (hentry : ∀ n, card ++ Path.ofString "-" <+: n →
      P (.isDirectory (below root (cardNames card ++ [n]))) ∧
        ∀ file, P (.text (below root (cardFile card n file)))) :
    ∀ q ∈ cardReads v (cardEntry root card), P q := by
  have hdriver : ∀ q ∈ driverReads v (deviceOf (cardEntry root card).path), P q := by
    refine forall_mem_readsThen.mpr ⟨List.forall_mem_singleton.mpr hlink, ?_⟩
    intro linked hlinked
    split
    · rename_i hnone
      rw [linkedDriver_eq_ok hlinked, Option.map_eq_none_iff] at hnone
      exact List.forall_mem_singleton.mpr (huevent hnone)
    · simp
  refine forall_mem_readsThen.mpr ⟨hdriver, fun _ _ => ?_⟩
  refine forall_mem_readsThen.mpr ⟨List.forall_mem_singleton.mpr henable, fun _ _ => ?_⟩
  refine forall_mem_readsThen.mpr ⟨List.forall_mem_singleton.mpr hlisting, ?_⟩
  intro es hes
  obtain ⟨ns, -, rfl⟩ := entries_eq_ok_iff.mp hes
  apply forall_mem_readsEach
  intro k hk
  obtain ⟨hk, hbelongs⟩ := List.mem_filter.mp hk
  obtain ⟨n, -, rfl⟩ := List.mem_map.mp hk
  obtain ⟨hdirectory, hfiles⟩ := hentry n ((belongsTo_iff hcard).mp hbelongs)
  refine List.forall_mem_cons.mpr ⟨hdirectory, ?_⟩
  split
  · intro q hq
    obtain ⟨file, -, rfl⟩ := List.mem_map.mp hq
    exact hfiles file
  · simp

/-! ### What is found of a card -/

/-- The entries of a card's connectors, in order. -/
def connectorsListed (v : View) (card : Entry) : List Entry :=
  match entries v card.path with
  | .ok es => (connectorEntries v card.name es).mergeSort fun a b => Text.notAfter a.name b.name
  | .error _ => []

/-- A card as what was read of it says. -/
def cardRead (v : View) (e : Entry) : Card where
  name := e.name
  driver := driverRead v (deviceOf e.path)
  enabled := decide (0 < attributeNumber v (deviceOf e.path) "enable")
  connectors := (connectorsListed v e).map (connectorRead v e.name)

/-- The text of a record that is shown, which is empty where no record is read. -/
def textShown (v : View) (device : Path) (file : String) : String :=
  if ueventDriver? v device = some "amdgpu" then attributeText v device file else ""

/-- The number of a record that is shown, which is 0 where no record is read. -/
def numberShown (v : View) (device : Path) (file : String) : UInt64 :=
  if ueventDriver? v device = some "amdgpu" then attributeNumber v device file else 0

/-- A card's record as what was read of it says. -/
def recordRead (v : View) (e : Entry) : CardStats :=
  recordOf e.name (textShown v (deviceOf e.path)) (numberShown v (deviceOf e.path))

def connectorsSamples (v : View) (e : Entry) : List Sample :=
  (connectorsListed v e).flatMap fun k => connectorSamples (connectorRead v e.name k)

def recordSamples (v : View) (e : Entry) : List Sample :=
  infoSample (driverRead v (deviceOf e.path)) (recordRead v e) :: gaugeSamples (recordRead v e)

/-- The samples of cards, and of their connectors and records, as what was read of them says. -/
def samplesRead (v : View) (es : List Entry) : List Sample :=
  (es.map fun e => enableSample (cardRead v e)) ++ es.flatMap (connectorsSamples v) ++
    es.flatMap (recordSamples v)

variable {v w : View} {root : Path} {e : Entry}

theorem connectors_eq {cs : List Connector} (h : (connectorsOf v e).outcome = .ok cs) :
    cs = (connectorsListed v e).map (connectorRead v e.name) := by
  obtain ⟨es, hes, -, rfl⟩ := outcome_connectorsOf_eq_ok_iff.mp h
  simp only [connectorsListed, hes]
  symm
  apply List.map_mergeSort
  exact fun _ _ _ _ => rfl

theorem mem_connectorsListed_iff {k : Entry} :
    k ∈ connectorsListed v e ↔ ∃ n, IsConnectorName v e n ∧ k = Entry.ofName e.path n := by
  cases hnames : v.names e.path with
  | error f =>
    have hentries : entries v e.path = .error (.unreadable e.path.text f) := by
      rw [entries, hnames]
    simp [connectorsListed, hentries, IsConnectorName, hnames]
  | ok ns =>
    have hentries : entries v e.path = .ok (ns.map (Entry.ofName e.path)) := by
      rw [entries, hnames]
    simp only [connectorsListed, hentries, List.mem_mergeSort, connectorEntries_eq, List.mem_map,
      mem_connectorNames hnames]
    exact exists_congr fun n => and_congr_right fun _ => eq_comm

theorem injective_ofName (directory : Path) : Function.Injective (Entry.ofName directory) := by
  intro m n h
  exact Path.join_inj.mp (congrArg Entry.path h)

theorem nodup_connectorsListed : (connectorsListed v e).Nodup := by
  unfold connectorsListed
  split
  · rename_i es hes
    obtain ⟨ns, hns, rfl⟩ := entries_eq_ok_iff.mp hes
    rw [(List.mergeSort_perm _ _).nodup_iff, connectorEntries_eq]
    exact ((v.distinct hns).filter _).map (injective_ofName e.path)
  · exact .nil

theorem requiredNumber_eq_ok {device : Path} {n : UInt64}
    (h : requiredNumber v (device.join (Path.ofString "enable")) "enable" = .ok n) :
    n = attributeNumber v device "enable" := by
  unfold requiredNumber at h
  cases htext : required v (device.join (Path.ofString "enable")) with
  | error f =>
    rw [htext] at h
    cases h
  | ok text =>
    rw [htext] at h
    rw [attributeNumber, ← required_eq_ok htext]
    exact number_eq_ok h

theorem eq_cardRead {c : Card} (h : (cardOf v e).outcome = .ok c) : c = cardRead v e := by
  obtain ⟨hname, hdriver, ⟨enable, henable, henabled⟩, hconnectors⟩ := outcome_cardOf_eq_ok_iff.mp h
  obtain ⟨name, driver, enabled, connectors⟩ := c
  rw [cardRead, ← driver_eq_ok hdriver, ← requiredNumber_eq_ok henable, ← connectors_eq hconnectors,
    ← henabled, ← hname]

theorem eq_recordRead {s : CardStats} (h : (statsOf v e).outcome = .ok s) : s = recordRead v e := by
  rw [outcome_statsOf h, recordRead]
  by_cases hamdgpu : ueventDriver? v (deviceOf e.path) = some "amdgpu"
  · have htext : textShown v (deviceOf e.path) = attributeText v (deviceOf e.path) :=
      funext fun _ => if_pos hamdgpu
    have hnumber : numberShown v (deviceOf e.path) = attributeNumber v (deviceOf e.path) :=
      funext fun _ => if_pos hamdgpu
    rw [if_pos hamdgpu, htext, hnumber]
  · have htext : textShown v (deviceOf e.path) = fun _ => "" := funext fun _ => if_neg hamdgpu
    have hnumber : numberShown v (deviceOf e.path) = fun _ => 0 := funext fun _ => if_neg hamdgpu
    rw [if_neg hamdgpu, htext, hnumber]

theorem eq_map_of_each {α β : Type} {job : α → Job β} {found : α → β} {as : List α} {bs : List β}
    (hjob : ∀ a b, (job a).outcome = .ok b → b = found a) (h : (Job.each job as).outcome = .ok bs) :
    bs = as.map found := by
  have hmap := Job.map_eq_of_forall₂ (g := id) hjob (Job.outcome_each_eq_ok.mp h)
  rwa [List.map_id] at hmap

theorem nodup_name_of_cardEntries {es : List Entry} (h : cardEntries v root = .ok es) :
    (es.map Entry.name).Nodup := by
  obtain ⟨-, -, -, hpairwise⟩ := cardEntries_listed h
  have hbytes : ((es.map Entry.name).map bytes).Nodup := by
    rw [List.map_map, List.Nodup, List.pairwise_map]
    exact hpairwise.imp CardBefore.ne
  exact hbytes.of_map

theorem surveySamples_read {es : List Entry} (h : (es.map Entry.name).Nodup) :
    surveySamples (es.map (cardRead v)) (es.map (recordRead v)) = samplesRead v es := by
  have hnames : ((es.map (cardRead v)).map Card.name).Nodup := by
    rw [List.map_map]
    exact h
  have hconnectors : ((es.map (cardRead v)).flatMap Card.connectors).flatMap connectorSamples =
      es.flatMap (connectorsSamples v) := by
    rw [List.flatMap_map, List.flatMap_assoc]
    apply List.flatMap_congr
    intro e _
    rw [cardRead, List.flatMap_map]
    rfl
  have hrecords : Collector.statsSamples (es.map (cardRead v)) (es.map (recordRead v)) =
      es.flatMap (recordSamples v) := by
    rw [Collector.statsSamples, List.flatMap_map]
    apply List.flatMap_congr
    intro e he
    have hdriver := firstDriver_eq hnames (List.mem_map_of_mem he)
    show infoSample (firstDriver _ (cardRead v e).name) _ :: _ = _
    rw [hdriver]
    rfl
  rw [surveySamples, Collector.cardSamples, hconnectors, hrecords, List.map_map]
  rfl

/-- What a survey yields is what its reads say. -/
theorem survey_eq_ok {samples : List Sample} (h : (survey (source v root)).outcome = .ok samples) :
    ∃ es, cardEntries v root = .ok es ∧ samples = samplesRead v es := by
  obtain ⟨cards, stats, hcards, hstats, rfl⟩ := Collector.survey_eq_ok_iff.mp h
  obtain ⟨es, hes, hcards⟩ := outcome_allCards_eq_ok.mp hcards
  obtain ⟨es', hes', hstats⟩ := outcome_allStats_eq_ok.mp hstats
  obtain rfl : es = es' := Except.ok.inj (hes.symm.trans hes')
  obtain rfl := eq_map_of_each (fun _ _ => eq_cardRead) (Job.outcome_each_eq_ok.mpr hcards)
  obtain rfl := eq_map_of_each (fun _ _ => eq_recordRead) (Job.outcome_each_eq_ok.mpr hstats)
  exact ⟨es, hes, surveySamples_read (nodup_name_of_cardEntries hes)⟩

end Sysfs

end CardTelemetry
