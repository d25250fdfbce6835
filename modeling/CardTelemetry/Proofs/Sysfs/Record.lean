import CardTelemetry.Proofs.Sysfs.Agreement
import CardTelemetry.Proofs.Sysfs.Attribute
import CardTelemetry.Proofs.Sysfs.Place
import Mathlib

/-!
# Which cards have a record

A card's driver is shown as its link names it, and only without a link as its `uevent` does. Its
record is read exactly where the `uevent` names amdgpu, whatever the link names. The two go
together unless a link and a `uevent` disagree about amdgpu, and then the driver shown says nothing
of the record.
-/

namespace CardTelemetry.Sysfs

open Files (Name Path Tree View)
open Files.Path (below)
open Text.Utf8 (lossy)
open Collector (firstDriver gaugeFields infoSample ofCard_eq_singleton survey surveySamples)

variable {v : View} {root : Path} {e : Entry}

/-! ### Records -/

/-- The labels that are texts of a record, each with the file of the text. -/
def textFiles : List (String × String) :=
  [("memory_vendor", "mem_info_vram_vendor"),
    ("power_performance_level", "power_dpm_force_performance_level"),
    ("unique_id", "unique_id")]

/-- The metrics that are numbers of a record, each with the file of the number. -/
def gaugeFiles : List (Metric × String) :=
  [(Schema.busyPercent, "gpu_busy_percent"),
    (Schema.gttSize, "mem_info_gtt_total"),
    (Schema.gttUsed, "mem_info_gtt_used"),
    (Schema.vramSize, "mem_info_vram_total"),
    (Schema.vramUsed, "mem_info_vram_used"),
    (Schema.visibleVramSize, "mem_info_vis_vram_total"),
    (Schema.visibleVramUsed, "mem_info_vis_vram_used")]

/-- A record made of what its files say. -/
def recordOf (name : String) (text : String → String) (number : String → UInt64) : CardStats where
  name := name
  busyPercent := number "gpu_busy_percent"
  gttSize := number "mem_info_gtt_total"
  gttUsed := number "mem_info_gtt_used"
  visibleVramSize := number "mem_info_vis_vram_total"
  visibleVramUsed := number "mem_info_vis_vram_used"
  vramSize := number "mem_info_vram_total"
  vramUsed := number "mem_info_vram_used"
  vramVendor := text "mem_info_vram_vendor"
  performanceLevel := text "power_dpm_force_performance_level"
  uniqueId := text "unique_id"

/-- Each number of a record is that of its file. -/
theorem gaugeFiles_fields :
    List.Forall₂ (fun g f => g.1 = f.1 ∧
        ∀ name text number, f.2 (recordOf name text number) = number g.2)
      gaugeFiles gaugeFields := by
  simp [gaugeFiles, gaugeFields, recordOf]

theorem outcome_deviceStats {name : String} {device : Path} {s : CardStats}
    (h : (deviceStats v name device).outcome = .ok s) :
    s = recordOf name (attributeText v device) (attributeNumber v device) := by
  simp only [deviceStats, Job.bind_eq_andThen, Job.outcome_andThen_eq_ok, Job.pure_eq_done,
    Job.outcome_done, outcome_optionalText, Except.ok.injEq, exists_eq_left'] at h
  obtain ⟨busyPercent, hbusyPercent, gttSize, hgttSize, gttUsed, hgttUsed, visibleVramSize,
    hvisibleVramSize, visibleVramUsed, hvisibleVramUsed, vramSize, hvramSize, vramUsed, hvramUsed,
    rfl⟩ := h
  rw [outcome_optionalNumber_eq_ok hbusyPercent, outcome_optionalNumber_eq_ok hgttSize,
    outcome_optionalNumber_eq_ok hgttUsed, outcome_optionalNumber_eq_ok hvisibleVramSize,
    outcome_optionalNumber_eq_ok hvisibleVramUsed, outcome_optionalNumber_eq_ok hvramSize,
    outcome_optionalNumber_eq_ok hvramUsed]
  rfl

/-- What a record says, card by card: all of it, or nothing but the name. -/
theorem outcome_statsOf {s : CardStats} (h : (statsOf v e).outcome = .ok s) :
    s = if ueventDriver? v (deviceOf e.path) = some "amdgpu" then
        recordOf e.name (attributeText v (deviceOf e.path)) (attributeNumber v (deviceOf e.path))
      else recordOf e.name (fun _ => "") fun _ => 0 := by
  simp only [statsOf, Job.bind_eq_andThen, Job.outcome_andThen_eq_ok, Job.outcome_ofExcept] at h
  obtain ⟨listed, hlisted, h⟩ := h
  rw [← listedDriver_eq_ok hlisted]
  by_cases hamdgpu : listed = some "amdgpu"
  · rw [if_pos hamdgpu] at h ⊢
    exact outcome_deviceStats h
  · rw [if_neg hamdgpu] at h ⊢
    exact (Except.ok.inj h).symm

theorem driver_of_cardOf {c : Card} (h : (cardOf v e).outcome = .ok c) :
    c.driver = driverRead v (deviceOf e.path) := by
  obtain ⟨-, hdriver, -⟩ := outcome_cardOf_eq_ok_iff.mp h
  exact driver_eq_ok hdriver

/-! ### Samples -/

/-- The samples show a card's record: its texts as labels, and its numbers as gauges. -/
def ShowsRecord (samples : List Sample) (card : String) (text : String → String)
    (number : String → UInt64) : Prop :=
  (∀ t ∈ textFiles, (ofCard Schema.cardInfo card samples).map (Sample.label? · t.1) =
      [some (text t.2)]) ∧
    ∀ g ∈ gaugeFiles, (ofCard g.1 card samples).map Sample.value = [.ofWord (number g.2)]

/-- The samples show what the files of a card's device say. -/
def ShowsFiles (v : View) (root : Path) (samples : List Sample) (card : Name) : Prop :=
  ShowsRecord samples (lossy card) (attributeText v (below root (deviceNames card)))
    (attributeNumber v (below root (deviceNames card)))

/-- The samples show nothing of a card but its name and driver. -/
def ShowsNothing (samples : List Sample) (card : Name) : Prop :=
  ShowsRecord samples (lossy card) (fun _ => "") fun _ => 0

/-- The samples show one driver of a card. -/
def ShowsDriver (samples : List Sample) (card : Name) (driver : String) : Prop :=
  (ofCard Schema.cardInfo (lossy card) samples).map (Sample.label? · "driver") = [some driver]

/-- The driver that is shown of a card tells whether its record is shown. -/
def DriverTells (v : View) (root : Path) (samples : List Sample) (card : Name) : Prop :=
  ∃ driver, ShowsDriver samples card driver ∧
    (driver = "amdgpu" → ShowsFiles v root samples card) ∧
    (driver ≠ "amdgpu" → ShowsNothing samples card)

/-- A link and a `uevent` do not disagree about amdgpu. -/
def LinkAgrees (v : View) (device : Path) : Prop :=
  ∀ n, linkName? v (device.join (Path.ofString "driver")) = some n →
    (lossy n = "amdgpu" ↔ ueventDriver? v device = some "amdgpu")

/-- Exactly then the driver shown is amdgpu where the `uevent` names it. -/
theorem linkAgrees_iff {device : Path} :
    LinkAgrees v device ↔
      (driverRead v device = "amdgpu" ↔ ueventDriver? v device = some "amdgpu") := by
  unfold LinkAgrees driverRead
  cases linkName? v (device.join (Path.ofString "driver")) with
  | some n => simp
  | none =>
    cases ueventDriver? v device with
    | some d => simp
    | none => simp

section Survey

variable {cards : List Card} {stats : List CardStats}

/-- A record that is listed is shown. -/
theorem showsRecord_of_mem (hnodup : (stats.map CardStats.name).Nodup) {name : String}
    {text : String → String} {number : String → UInt64} (h : recordOf name text number ∈ stats) :
    ShowsRecord (surveySamples cards stats) name text number := by
  constructor
  · intro t ht
    have hone : ofCard Schema.cardInfo name (surveySamples cards stats) =
        [infoSample (firstDriver cards name) (recordOf name text number)] :=
      ofCard_eq_singleton Collector.ofMetric_cardInfo (fun _ => rfl) hnodup h
    rw [hone]
    simp only [textFiles, List.mem_cons, List.not_mem_nil, or_false] at ht
    obtain rfl | rfl | rfl := ht <;> rfl
  · intro g hg
    obtain ⟨⟨m, field⟩, hm, rfl, hfield⟩ := Job.exists_right_of_mem gaugeFiles_fields hg
    obtain ⟨sample, hsamples, hsample⟩ := @Collector.ofMetric_gauge cards stats _ field hm
    have hone : ofCard g.1 name (surveySamples cards stats) = [sample (recordOf name text number)] :=
      ofCard_eq_singleton hsamples (fun s => (hsample s).2.1) hnodup h
    have hnumber : field (recordOf name text number) = number g.2 := hfield name text number
    rw [hone, List.map_singleton, (hsample _).2.2, hnumber]

theorem showsDriver_of_mem (hnodup : (stats.map CardStats.name).Nodup) {card : Name}
    {s : CardStats} (h : s ∈ stats) (hname : s.name = lossy card) :
    ShowsDriver (surveySamples cards stats) card (firstDriver cards (lossy card)) := by
  have hone : ofCard Schema.cardInfo s.name (surveySamples cards stats) =
      [infoSample (firstDriver cards s.name) s] :=
    ofCard_eq_singleton Collector.ofMetric_cardInfo (fun _ => rfl) hnodup h
  rw [ShowsDriver, ← hname, hone]
  rfl

theorem ShowsDriver.unique {samples : List Sample} {card : Name} {d d' : String}
    (h : ShowsDriver samples card d) (h' : ShowsDriver samples card d') : d = d' := by
  rw [ShowsDriver, h] at h'
  exact Option.some.inj (List.singleton_inj.mp h')

/-- No card is shown that the directory does not have. -/
theorem exists_isCard_of_cardInfo (hstats : (allStats v root).outcome = .ok stats) {s : Sample}
    (hs : s ∈ ofMetric Schema.cardInfo (surveySamples cards stats)) :
    ∃ card, IsCard v root card ∧ s.label? "card" = some (lossy card) := by
  obtain ⟨es, hes, hread⟩ := outcome_allStats_eq_ok.mp hstats
  rw [Collector.ofMetric_cardInfo] at hs
  obtain ⟨r, hr, rfl⟩ := List.mem_map.mp hs
  obtain ⟨e, he, hread⟩ := Job.exists_left_of_mem hread hr
  obtain ⟨card, hcard, rfl⟩ := (mem_cardEntries_iff hes).mp he
  refine ⟨card, hcard, ?_⟩
  show some r.name = _
  rw [name_of_statsOf hread]
  rfl

end Survey

/-- **A card's record is shown exactly where its `uevent` names amdgpu.** The driver shown is the
link's where there is one, so it tells whether the record is shown unless the link and the `uevent`
disagree about amdgpu. -/
theorem record_follows_uevent {samples : List Sample}
    (h : (survey (source v root)).outcome = .ok samples) :
    (∀ s ∈ ofMetric Schema.cardInfo samples, ∃ card, IsCard v root card ∧
        s.label? "card" = some (lossy card)) ∧
      ∀ card, IsCard v root card →
        ShowsDriver samples card (driverRead v (below root (deviceNames card))) ∧
          (ueventDriver? v (below root (deviceNames card)) = some "amdgpu" →
            ShowsFiles v root samples card) ∧
          (ueventDriver? v (below root (deviceNames card)) ≠ some "amdgpu" →
            ShowsNothing samples card) ∧
          (LinkAgrees v (below root (deviceNames card)) → DriverTells v root samples card) := by
  obtain ⟨cards, stats, hcards, hstats, rfl⟩ := Collector.survey_eq_ok_iff.mp h
  have hnames := nodup_of_allCards hcards
  have hrecords : (stats.map CardStats.name).Nodup := by
    rw [map_name_agree hcards hstats]
    exact hnames
  refine ⟨fun s hs => exists_isCard_of_cardInfo hstats hs, ?_⟩
  intro card hcard
  obtain ⟨c, hc, hcread⟩ := exists_outcome_of_eachCard hcards hcard
  obtain ⟨r, hr, hrread⟩ := exists_outcome_of_eachCard hstats hcard
  have hrecord := outcome_statsOf hrread
  rw [deviceOf_cardEntry] at hrecord
  have hdriver : ShowsDriver (surveySamples cards stats) card
      (driverRead v (below root (deviceNames card))) := by
    have hname : c.name = lossy card := (outcome_cardOf hcread).1
    have hfirst := firstDriver_eq hnames hc
    rw [hname, driver_of_cardOf hcread, deviceOf_cardEntry] at hfirst
    rw [← hfirst]
    exact showsDriver_of_mem hrecords hr (name_of_statsOf hrread)
  have hfiles (hamdgpu : ueventDriver? v (below root (deviceNames card)) = some "amdgpu") :
      ShowsFiles v root (surveySamples cards stats) card := by
    rw [if_pos hamdgpu] at hrecord
    exact showsRecord_of_mem hrecords (hrecord ▸ hr)
  have hnothing (hother : ueventDriver? v (below root (deviceNames card)) ≠ some "amdgpu") :
      ShowsNothing (surveySamples cards stats) card := by
    rw [if_neg hother] at hrecord
    exact showsRecord_of_mem hrecords (hrecord ▸ hr)
  refine ⟨hdriver, hfiles, hnothing, ?_⟩
  intro hagrees
  have hiff := linkAgrees_iff.mp hagrees
  exact ⟨_, hdriver, fun hd => hfiles (hiff.mp hd), fun hd => hnothing fun h => hd (hiff.mpr h)⟩

/-- Two cards whose links and `uevent` files disagree: a link away from amdgpu, and one to it. -/
def crossedTree : Tree where
  nodes :=
    [(["class"].map Path.ofString, .directory),
      (["class", "drm"].map Path.ofString, .directory),
      (["class", "drm", "card0"].map Path.ofString, .directory),
      (["class", "drm", "card0", "device"].map Path.ofString, .directory),
      (["class", "drm", "card0", "device", "driver"].map Path.ofString,
        .link (Path.ofString "../drivers/radeon")),
      (["class", "drm", "card0", "device", "uevent"].map Path.ofString,
        .file (Path.ofString "DRIVER=amdgpu\n")),
      (["class", "drm", "card0", "device", "gpu_busy_percent"].map Path.ofString,
        .file (Path.ofString "5\n")),
      (["class", "drm", "card1"].map Path.ofString, .directory),
      (["class", "drm", "card1", "device"].map Path.ofString, .directory),
      (["class", "drm", "card1", "device", "driver"].map Path.ofString,
        .link (Path.ofString "../drivers/amdgpu")),
      (["class", "drm", "card1", "device", "gpu_busy_percent"].map Path.ofString,
        .file (Path.ofString "7\n"))]
  distinct := by decide

/-- The samples of that tree. -/
def crossedSamples : List Sample :=
  surveySamples [⟨"card0", "radeon", false, []⟩, ⟨"card1", "amdgpu", false, []⟩]
    [⟨"card0", 5, 0, 0, 0, 0, 0, 0, "", "", ""⟩, .nameOnly "card1"]

theorem survey_crossedTree :
    (survey (source crossedTree.view (Path.ofString "/"))).outcome = .ok crossedSamples := by
  have hcards : (allCards crossedTree.view (Path.ofString "/")).outcome =
      .ok [⟨"card0", "radeon", false, []⟩, ⟨"card1", "amdgpu", false, []⟩] := by cbv
  have hstats : (allStats crossedTree.view (Path.ofString "/")).outcome =
      .ok [⟨"card0", 5, 0, 0, 0, 0, 0, 0, "", "", ""⟩, .nameOnly "card1"] := by cbv
  exact Collector.survey_eq_ok_iff.mpr ⟨_, _, hcards, hstats, rfl⟩

theorem isCard_crossedTree :
    IsCard crossedTree.view (Path.ofString "/") (Path.ofString "card0") ∧
      IsCard crossedTree.view (Path.ofString "/") (Path.ofString "card1") := by
  have hnames : crossedTree.view.names (below (Path.ofString "/") classNames) =
      .ok [Path.ofString "card0", Path.ofString "card1"] := by cbv
  have hcard : IsCardName (Path.ofString "card0") 0 := cardNumber?_lossy_iff.mp (by cbv)
  have hcard' : IsCardName (Path.ofString "card1") 1 := cardNumber?_lossy_iff.mp (by cbv)
  exact ⟨⟨⟨_, hnames, by simp⟩, 0, hcard⟩, ⟨⟨_, hnames, by simp⟩, 1, hcard'⟩⟩

/-- The card whose driver is shown as radeon has its record shown, and the amdgpu card has not. -/
theorem record_follows_uevent_crossedTree :
    ∃ samples, (survey (source crossedTree.view (Path.ofString "/"))).outcome = .ok samples ∧
      ShowsDriver samples (Path.ofString "card0") "radeon" ∧
      ShowsFiles crossedTree.view (Path.ofString "/") samples (Path.ofString "card0") ∧
      ShowsDriver samples (Path.ofString "card1") "amdgpu" ∧
      ShowsNothing samples (Path.ofString "card1") := by
  obtain ⟨hcard, hcard'⟩ := isCard_crossedTree
  obtain ⟨-, hshown⟩ := record_follows_uevent survey_crossedTree
  obtain ⟨hdriver, hfiles, -⟩ := hshown _ hcard
  obtain ⟨hdriver', -, hnothing, -⟩ := hshown _ hcard'
  have hread : driverRead crossedTree.view
      (below (Path.ofString "/") (deviceNames (Path.ofString "card0"))) = "radeon" := by cbv
  have hread' : driverRead crossedTree.view
      (below (Path.ofString "/") (deviceNames (Path.ofString "card1"))) = "amdgpu" := by cbv
  have huevent : ueventDriver? crossedTree.view
      (below (Path.ofString "/") (deviceNames (Path.ofString "card0"))) = some "amdgpu" := by cbv
  have huevent' : ueventDriver? crossedTree.view
      (below (Path.ofString "/") (deviceNames (Path.ofString "card1"))) = none := by cbv
  rw [hread] at hdriver
  rw [hread'] at hdriver'
  exact ⟨_, survey_crossedTree, hdriver, hfiles huevent, hdriver', hnothing (by simp [huevent'])⟩

/-- Each card is shown with a driver, and the driver does not tell whether its record is shown. -/
theorem not_driverTells_crossedTree :
    ∃ samples, (survey (source crossedTree.view (Path.ofString "/"))).outcome = .ok samples ∧
      (ShowsDriver samples (Path.ofString "card0") "radeon" ∧
        ¬ DriverTells crossedTree.view (Path.ofString "/") samples (Path.ofString "card0")) ∧
      (ShowsDriver samples (Path.ofString "card1") "amdgpu" ∧
        ¬ DriverTells crossedTree.view (Path.ofString "/") samples (Path.ofString "card1")) := by
  refine ⟨_, survey_crossedTree, ?_, ?_⟩
  · have hradeon : ShowsDriver crossedSamples (Path.ofString "card0") "radeon" := by
      unfold ShowsDriver
      decide +kernel
    refine ⟨hradeon, ?_⟩
    intro h
    obtain ⟨driver, hdriver, -, hnothing⟩ := h
    obtain rfl : driver = "radeon" := hdriver.unique hradeon
    have hshown := (hnothing (by decide)).2 (Schema.busyPercent, "gpu_busy_percent")
      (by simp [gaugeFiles])
    exact absurd hshown (by decide +kernel)
  · have hamdgpu : ShowsDriver crossedSamples (Path.ofString "card1") "amdgpu" := by
      unfold ShowsDriver
      decide +kernel
    refine ⟨hamdgpu, ?_⟩
    intro h
    obtain ⟨driver, hdriver, hfiles, -⟩ := h
    obtain rfl : driver = "amdgpu" := hdriver.unique hamdgpu
    have hshown := (hfiles rfl).2 (Schema.busyPercent, "gpu_busy_percent") (by simp [gaugeFiles])
    have hseven : attributeNumber crossedTree.view
        (below (Path.ofString "/") (deviceNames (Path.ofString "card1"))) "gpu_busy_percent" = 7 := by
      cbv
    rw [hseven] at hshown
    exact absurd hshown (by decide +kernel)

end CardTelemetry.Sysfs
