import CardTelemetry.Proofs.Binary64.Nearest
import CardTelemetry.Proofs.Sysfs.Dependence
import CardTelemetry.Proofs.Sysfs.Footprint
import Mathlib

/-!
# Numbers from their own files

Each of the seven numbers of a record is shown as the double nearest to what its own file writes,
and files of numbers that are changed to other numbers change no other sample. Of a device whose
`uevent` does not name amdgpu, no other file is read than those every card has. Files are told apart
by their paths.
-/

namespace CardTelemetry.Sysfs

open Files (Name Path Tree View)
open Files.Path (below)
open Text.Utf8 (lossy)
open Collector (gaugeSamples survey)

variable {v w : View} {root : Path} {e : Entry} {card : Name}

/-- The number of a card's file: what it writes if the card's `uevent` names amdgpu and the file can
be read and is not blank, and 0 otherwise. -/
def NumberOf (v : View) (root : Path) (card : Name) (file : String) (n : UInt64) : Prop :=
  (ueventDriver? v (below root (deviceNames card)) = some "amdgpu" ∧
      ∃ s, v.text (below root (deviceFile card file)) = .ok s ∧ Text.trimmed s ≠ "" ∧
        Text.IsWord (Text.trimmed s) n) ∨
    (ueventDriver? v (below root (deviceNames card)) = some "amdgpu" →
      ∀ s, v.text (below root (deviceFile card file)) = .ok s → Text.trimmed s = "") ∧ n = 0

/-- A sample of a card's number, as the number's file makes it. -/
structure ShowsNumber (v : View) (root : Path) (card : Name) (g : Metric × String) (s : Sample) :
    Prop where
  metric : s.metric = g.1
  labels : s.labels = [("card", lossy card)]
  value : s.value = .ofWord (numberShown v (below root (deviceNames card)) g.2)

/-- A path below a card's device, but for the three files that every card has. -/
def BelowDevice (root : Path) (card : Name) (p : Path) : Prop :=
  ∃ rest, p = (below root (deviceNames card)).join rest ∧
    rest ∉ ["driver", "uevent", "enable"].map Path.ofString

/-! ### The number shown -/

theorem numeric_of_isWord {p : Path} {s : String} {n : UInt64} (hs : v.text p = .ok s)
    (hn : Text.IsWord (Text.trimmed s) n) : Numeric v p := by
  intro text h
  obtain ⟨⟨s', hs', rfl⟩, -, hnone⟩ := h
  obtain rfl : s = s' := Except.ok.inj (hs.symm.trans hs')
  exact hnone n hn

/-- The numbers of a record that is read are numbers. -/
theorem numeric_of_statsOf {s : CardStats} (h : (statsOf v e).outcome = .ok s)
    (hamdgpu : ueventDriver? v (deviceOf e.path) = some "amdgpu") {file : String}
    (hfile : file ∈ numberFiles) : Numeric v ((deviceOf e.path).join (Path.ofString file)) := by
  simp only [statsOf, Job.bind_eq_andThen, Job.outcome_andThen_eq_ok, Job.outcome_ofExcept] at h
  obtain ⟨listed, hlisted, h⟩ := h
  rw [listedDriver_eq_ok hlisted, if_pos hamdgpu, outcome_deviceStats_eq] at h
  intro text hmalformed
  have hfails : ∃ f, (optionalNumber v (deviceOf e.path) file).outcome = .error f := by
    rw [outcome_optionalNumber]
    exact ⟨_, number_attributeAt_eq_error_iff.mpr ⟨text, hmalformed, rfl⟩⟩
  obtain ⟨f, hf⟩ := hfails
  cases hnumbers : (Job.each (optionalNumber v (deviceOf e.path)) numberFiles).outcome with
  | error g =>
    rw [hnumbers] at h
    cases h
  | ok ns =>
    obtain ⟨n, hn⟩ := Job.exists_outcome_each_eq_ok.mp ⟨ns, hnumbers⟩ file hfile
    rw [hf] at hn
    cases hn

theorem wordIn_of_isWord {s : String} {n : UInt64} (h : Text.IsWord s n) : wordIn (some s) = n := by
  rw [wordIn, Text.readWord_eq_ok_iff.mpr h]

theorem numberOf_shown {s : CardStats} (h : (statsOf v (cardEntry root card)).outcome = .ok s)
    {file : String} (hfile : file ∈ numberFiles) :
    NumberOf v root card file (numberShown v (below root (deviceNames card)) file) := by
  unfold NumberOf numberShown
  by_cases hamdgpu : ueventDriver? v (below root (deviceNames card)) = some "amdgpu"
  · rw [if_pos hamdgpu]
    have hnumeric : Numeric v (below root (deviceFile card file)) :=
      numeric_of_statsOf h hamdgpu hfile
    have hnumber : attributeNumber v (below root (deviceNames card)) file =
        wordIn (attributeAt v (below root (deviceFile card file))) := rfl
    rw [hnumber]
    cases hs : v.text (below root (deviceFile card file)) with
    | error cause =>
      have hnone : attributeAt v (below root (deviceFile card file)) = none := by
        rw [attributeAt, hs]
      rw [hnone]
      refine .inr ⟨?_, rfl⟩
      intro _ s hs
      cases hs
    | ok s =>
      have hsome : attributeAt v (below root (deviceFile card file)) = some (Text.trimmed s) := by
        rw [attributeAt, hs]
      rw [hsome]
      by_cases hblank : Text.trimmed s = ""
      · rw [hblank]
        refine .inr ⟨?_, rfl⟩
        intro _ s' hs'
        cases hs'
        exact hblank
      · have hword : ∃ n, Text.IsWord (Text.trimmed s) n := by
          by_contra hnone
          exact hnumeric _ ⟨⟨s, hs, rfl⟩, hblank, fun n hn => hnone ⟨n, hn⟩⟩
        obtain ⟨n, hn⟩ := hword
        rw [wordIn_of_isWord hn]
        exact .inl ⟨hamdgpu, s, rfl, hblank, hn⟩
  · rw [if_neg hamdgpu]
    exact .inr ⟨fun h => absurd h hamdgpu, rfl⟩

/-! ### Samples -/

theorem one_label_of_gauge : ∀ g ∈ gaugeFiles, g.1.labelNames = ["card"] := by decide

theorem mem_numberFiles : ∀ g ∈ gaugeFiles, g.2 ∈ numberFiles := by decide

theorem not_required_of_gauge :
    ∀ g ∈ gaugeFiles, g.2 ≠ "uevent" ∧ g.2 ≠ "enable" ∧ g.2 ∉ textFiles.map Prod.snd := by decide

theorem gauge_eq_of_file_eq : ∀ g ∈ gaugeFiles, ∀ g' ∈ gaugeFiles, g.2 = g'.2 → g = g' := by decide

def numberSample (v : View) (e : Entry) (g : { g // g ∈ gaugeFiles }) : Sample where
  metric := g.1.1
  labelValues := [e.name]
  value := .ofWord (numberShown v (deviceOf e.path) g.1.2)
  aligned := by rw [one_label_of_gauge g.1 g.2]; rfl

theorem gaugeSamples_read (v : View) (e : Entry) :
    gaugeSamples (recordRead v e) = gaugeFiles.attach.map (numberSample v e) := rfl

theorem showsNumber_numberSample (v : View) (root : Path) (card : Name)
    (g : { g // g ∈ gaugeFiles }) :
    ShowsNumber v root card g.1 (numberSample v (cardEntry root card) g) := by
  refine ⟨rfl, ?_, rfl⟩
  rw [Sample.labels, numberSample, one_label_of_gauge g.1 g.2]
  rfl

/-- A survey that ends well has one sample of each number of each card. -/
theorem value_of_survey {samples : List Sample} (h : (survey (source v root)).outcome = .ok samples)
    (hcard : IsCard v root card) :
    (∃ s, (statsOf v (cardEntry root card)).outcome = .ok s) ∧
      ∀ g ∈ gaugeFiles, (ofCard g.1 (lossy card) samples).map Sample.value =
        [.ofWord (numberShown v (below root (deviceNames card)) g.2)] := by
  obtain ⟨cards, stats, hcards, hstats, rfl⟩ := Collector.survey_eq_ok_iff.mp h
  have hrecords : (stats.map CardStats.name).Nodup := by
    rw [map_name_agree hcards hstats]
    exact nodup_of_allCards hcards
  obtain ⟨s, hs, hread⟩ := exists_outcome_of_eachCard hstats hcard
  have hrecord : recordOf (lossy card) (textShown v (below root (deviceNames card)))
      (numberShown v (below root (deviceNames card))) ∈ stats := by
    have hsame : s = recordOf (lossy card) _ _ := eq_recordRead hread
    rwa [hsame] at hs
  exact ⟨⟨s, hread⟩, (showsRecord_of_mem hrecords hrecord).2⟩

/-! ### Numbers that change -/

section Changed

variable {changed : Name → Metric × String → Prop}

/-- A file of a changed number, which is a number still. -/
def Changed (changed : Name → Metric × String → Prop) (v w : View) (root : Path) (p : Path) :
    Prop :=
  ∃ card g, changed card g ∧ IsCard v root card ∧ g ∈ gaugeFiles ∧
    p = below root (deviceFile card g.2) ∧ Numeric w p

theorem file_of_changed {file : String} (hcard : IsCard v root card)
    (h : Changed changed v w root (below root (deviceFile card file))) :
    ∃ g ∈ gaugeFiles, changed card g ∧ file = g.2 := by
  obtain ⟨card', g, hchanged, hcard', hg, heq, -⟩ := h
  obtain ⟨_, hnumber⟩ := hcard.2
  obtain ⟨_, hnumber'⟩ := hcard'.2
  obtain ⟨rfl, hfile⟩ := (deviceFile_inj hnumber hnumber').mp heq
  exact ⟨g, hg, hchanged, hfile⟩

theorem harmless_of_changed {samples : List Sample}
    (h : (survey (source v root)).outcome = .ok samples) {es : List Entry}
    (hes : cardEntries v root = .ok es) (he : e ∈ es) :
    Harmless (Changed changed v w root) v w e := by
  obtain ⟨card, hcard, rfl⟩ := (mem_cardEntries_iff hes).mp he
  obtain ⟨⟨s, hs⟩, -⟩ := value_of_survey h hcard
  constructor
  · intro hdiffers
    obtain ⟨g, hg, -, hfile⟩ := file_of_changed hcard hdiffers
    exact (not_required_of_gauge g hg).1 hfile.symm
  · intro hdiffers
    obtain ⟨g, hg, -, hfile⟩ := file_of_changed hcard hdiffers
    exact (not_required_of_gauge g hg).2.1 hfile.symm
  · intro hamdgpu file hfile hdiffers
    obtain ⟨_, _, -, -, -, -, hnumeric⟩ := hdiffers
    exact ⟨numeric_of_statsOf hs hamdgpu hfile, hnumeric⟩

/-- A sample is the same, or it is of a number that is changed. -/
def SameOrChanged (changed : Name → Metric × String → Prop) (v w : View) (root : Path)
    (s s' : Sample) : Prop :=
  s' = s ∨ ∃ card g, changed card g ∧ g ∈ gaugeFiles ∧ ShowsNumber v root card g s ∧
    ShowsNumber w root card g s'

theorem recordSamples_changed (hcard : IsCard v root card)
    (hc : CardAlike (Changed changed v w root) v w (cardEntry root card))
    (hr : RecordAlike (Changed changed v w root) v w (cardEntry root card)) :
    List.Forall₂ (SameOrChanged changed v w root) (recordSamples v (cardEntry root card))
      (recordSamples w (cardEntry root card)) := by
  have htext (t : String × String) (ht : t ∈ textFiles) :
      textShown w (below root (deviceNames card)) t.2 =
        textShown v (below root (deviceNames card)) t.2 := by
    refine (hr.shown (List.mem_append_right _ (List.mem_map_of_mem ht)) ?_).1
    intro hdiffers
    obtain ⟨g, hg, -, hfile⟩ := file_of_changed hcard hdiffers
    exact (not_required_of_gauge g hg).2.2 (hfile ▸ List.mem_map_of_mem ht)
  have hinfo : Collector.infoSample (driverRead w (below root (deviceNames card)))
      (recordRead w (cardEntry root card)) =
        Collector.infoSample (driverRead v (below root (deviceNames card)))
          (recordRead v (cardEntry root card)) := by
    have hdriver : driverRead w (below root (deviceNames card)) =
        driverRead v (below root (deviceNames card)) := hc.1
    rw [hdriver]
    exact infoSample_congr htext
  refine .cons (.inl hinfo) ?_
  rw [gaugeSamples_read, gaugeSamples_read, List.forall₂_map_left_iff, List.forall₂_map_right_iff,
    List.forall₂_same]
  rintro ⟨g, hg⟩ -
  by_cases hdiffers : Changed changed v w root (below root (deviceFile card g.2))
  · obtain ⟨g', hg', hchanged, hfile⟩ := file_of_changed hcard hdiffers
    obtain rfl := gauge_eq_of_file_eq g hg g' hg' hfile
    exact .inr ⟨card, g, hchanged, hg, showsNumber_numberSample v root card ⟨g, hg⟩,
      showsNumber_numberSample w root card ⟨g, hg⟩⟩
  · have hnumber := (hr.shown (List.mem_append_left _ (mem_numberFiles g hg)) hdiffers).2
    refine .inl ?_
    rw [numberSample, numberSample, hnumber]

/-- Numbers that are changed to other numbers change no other sample. -/
theorem survey_changed {samples : List Sample} (h : (survey (source v root)).outcome = .ok samples)
    (hreads : ∀ q ∈ surveyReads v root, q.SameBut (Changed changed v w root) v w) :
    ∃ samples', (survey (source w root)).outcome = .ok samples' ∧
      List.Forall₂ (SameOrChanged changed v w root) samples samples' := by
  have halike := alike_survey (fun es hes e he => harmless_of_changed h hes he) hreads
  obtain ⟨f, hf, -⟩ | ⟨_, samples', hv, hw, es, hes, rfl, rfl, hfound⟩ := alike_iff.mp halike
  · rw [h] at hf
    cases hf
  obtain rfl := Except.ok.inj (h.symm.trans hv)
  refine ⟨_, hw, ?_⟩
  have hsame (l : List Sample) : List.Forall₂ (SameOrChanged changed v w root) l l :=
    List.forall₂_same.mpr fun _ _ => .inl rfl
  have henable := map_enableSample_congr fun e he => (hfound e he).1
  have hconnectors : es.flatMap (connectorsSamples w) = es.flatMap (connectorsSamples v) := by
    apply List.flatMap_congr
    intro e he
    obtain ⟨card, hcard, rfl⟩ := (mem_cardEntries_iff hes).mp he
    apply connectorsSamples_of_devices _ hcard (hfound _ he).1.2.2
    intro p hp
    obtain ⟨card', g, -, hcard', -, heq, -⟩ := hp
    exact ⟨card', g.2, hcard'.2, heq⟩
  have hrecords : List.Forall₂ (SameOrChanged changed v w root) (es.flatMap (recordSamples v))
      (es.flatMap (recordSamples w)) := by
    have hes' : List.Forall₂ (fun e e' => e ∈ es ∧ e' = e) es es :=
      List.forall₂_same.mpr fun e he => ⟨he, rfl⟩
    apply List.rel_flatMap hes'
    rintro e _ ⟨he, rfl⟩
    obtain ⟨card, hcard, rfl⟩ := (mem_cardEntries_iff hes).mp he
    exact recordSamples_changed hcard (hfound _ he).1 (hfound _ he).2
  rw [samplesRead, samplesRead, henable, hconnectors]
  exact List.rel_append (hsame _) hrecords

end Changed

/-! ### Files that are not read -/

section NotRead

variable {card' : Name}

theorem file_of_belowDevice (hcard : IsCard v root card) (hcard' : IsCard v root card')
    {file : String} (h : BelowDevice root card (below root (deviceFile card' file))) :
    card' = card ∧ file ∉ ["driver", "uevent", "enable"] := by
  obtain ⟨rest, heq, hrest⟩ := h
  have hjoin : below root (deviceFile card' file) =
      (below root (deviceNames card')).join (Path.ofString file) := rfl
  obtain ⟨_, hnumber⟩ := hcard.2
  obtain ⟨_, hnumber'⟩ := hcard'.2
  rw [hjoin, join_deviceNames, join_deviceNames, join_card_inj hnumber' hnumber,
    Path.join_inj] at heq
  obtain ⟨rfl, rfl⟩ := heq
  exact ⟨rfl, fun hmem => hrest (List.mem_map_of_mem hmem)⟩

/-- What is named after a card is not below a device. -/
theorem not_belowDevice_of_named (hcard : IsCard v root card) (hcard' : IsCard v root card')
    {n : Name} (hn : card' ++ Path.ofString "-" <+: n) (file : String) :
    ¬ BelowDevice root card (below root (cardNames card' ++ [n])) ∧
      ¬ BelowDevice root card (below root (cardFile card' n file)) := by
  obtain ⟨_, hnumber⟩ := hcard.2
  obtain ⟨_, hnumber'⟩ := hcard'.2
  constructor
  · rintro ⟨rest, heq, -⟩
    rw [below_cardNames_append, join_deviceNames, join_card_inj hnumber' hnumber] at heq
    exact (ne_join_device hnumber' hn [] rest).1 heq.2
  · rintro ⟨rest, heq, -⟩
    rw [below_cardFile root (ne_nil_of_named hn), join_deviceNames,
      join_card_inj hnumber' hnumber] at heq
    exact (ne_join_device hnumber' hn _ rest).2 heq.2

/-- Neither the directory of cards nor a card's is below a device. -/
theorem not_belowDevice_directory (hcard : IsCard v root card) :
    ¬ BelowDevice root card (below root classNames) ∧
      ∀ card', IsCard v root card' → ¬ BelowDevice root card (below root (cardNames card')) := by
  obtain ⟨_, hnumber⟩ := hcard.2
  have hslash := needsSlash_of_isCardName hnumber
  have hpath (rest : Path) : (below root (deviceNames card)).join rest =
      (below root classNames).join (Path.join card ((Path.ofString "device").join rest)) := by
    rw [join_deviceNames]
    exact Path.join_join hslash.1 _ _
  constructor
  · rintro ⟨rest, heq, -⟩
    rw [hpath] at heq
    have hne : Path.join card ((Path.ofString "device").join rest) ≠ [] := by
      rw [Path.join_of_needsSlash hslash]
      exact List.append_ne_nil_of_left_ne_nil hslash.1 _
    have hlength := Path.length_lt_join hne (below root classNames)
    rw [← heq] at hlength
    exact lt_irrefl _ hlength
  · rintro card' hcard' ⟨rest, heq, -⟩
    have hpath' : below root (cardNames card') = (below root classNames).join card' := rfl
    rw [hpath, hpath', Path.join_inj, Path.join_of_needsSlash hslash] at heq
    obtain ⟨_, hnumber'⟩ := hcard'.2
    exact slash_not_mem_of_isCardName hnumber' (by simp [heq])

theorem not_belowDevice_of_cardReads (hcard : IsCard v root card) (hcard' : IsCard v root card') :
    ∀ q ∈ cardReads v (cardEntry root card'), ¬ BelowDevice root card q.path := by
  have hdevice (file : String) (hfile : file ∈ ["driver", "uevent", "enable"]) :
      ¬ BelowDevice root card (below root (deviceFile card' file)) :=
    fun h => (file_of_belowDevice hcard hcard' h).2 hfile
  obtain ⟨_, hnumber'⟩ := hcard'.2
  apply forall_mem_cardReads (fun q => ¬ BelowDevice root card q.path) hnumber'
  · exact hdevice "driver" (by simp)
  · exact fun _ => hdevice "uevent" (by simp)
  · exact hdevice "enable" (by simp)
  · exact (not_belowDevice_directory hcard).2 card' hcard'
  · intro n hn
    exact ⟨(not_belowDevice_of_named hcard hcard' hn "").1,
      fun file => (not_belowDevice_of_named hcard hcard' hn file).2⟩

theorem not_belowDevice_of_recordReads (hcard : IsCard v root card) (hcard' : IsCard v root card')
    (hother : ueventDriver? v (below root (deviceNames card)) ≠ some "amdgpu") :
    ∀ q ∈ recordReads v (cardEntry root card'), ¬ BelowDevice root card q.path := by
  refine forall_mem_readsThen.mpr ⟨List.forall_mem_singleton.mpr ?_, ?_⟩
  · exact fun h => (file_of_belowDevice hcard hcard' h).2 (by simp)
  intro listed hlisted
  split
  · rename_i hamdgpu
    have hdevice (file : String) :
        ¬ BelowDevice root card (below root (deviceFile card' file)) := by
      intro h
      obtain ⟨rfl, -⟩ := file_of_belowDevice hcard hcard' h
      apply hother
      rw [← hamdgpu]
      exact (listedDriver_eq_ok hlisted).symm
    refine forall_mem_readsThen.mpr ⟨?_, fun _ _ => ?_⟩
    · exact forall_mem_readsEach fun file _ => List.forall_mem_singleton.mpr (hdevice file)
    · intro q hq
      obtain ⟨file, -, rfl⟩ := List.mem_map.mp hq
      exact hdevice file
  · simp

/-- Of a device whose `uevent` does not name amdgpu, no file is read that not every card has. -/
theorem not_belowDevice_of_mem (hcard : IsCard v root card)
    (hother : ueventDriver? v (below root (deviceNames card)) ≠ some "amdgpu") :
    ∀ q ∈ surveyReads v root, ¬ BelowDevice root card q.path :=
  forall_mem_surveyReads (not_belowDevice_directory hcard).1
    (fun _ hcard' => not_belowDevice_of_cardReads hcard hcard')
    fun _ hcard' => not_belowDevice_of_recordReads hcard hcard' hother

end NotRead

/-- **Each number of a card is that of its own file**, rounded to the nearest double. Numbers that
are changed in their files change no other sample, and what else is below the device of a card whose
`uevent` does not name amdgpu is of no account, for the samples as for the events on the way. -/
theorem gauges_show_own_files (v : View) (root : Path) :
    (∀ samples, (survey (source v root)).outcome = .ok samples →
      (∀ card, IsCard v root card → ∀ g ∈ gaugeFiles, ∃ n, NumberOf v root card g.2 n ∧
          (ofCard g.1 (lossy card) samples).map Sample.value = [.ofWord n] ∧
          (Binary64.ofWord n).IsNearest n.toNat) ∧
        ∀ (changed : Name → Metric × String → Prop) (w : View),
          (∀ q ∈ surveyReads v root, q.SameBut (Changed changed v w root) v w) →
            ∃ samples', (survey (source w root)).outcome = .ok samples' ∧
              List.Forall₂ (SameOrChanged changed v w root) samples samples') ∧
      ∀ card, IsCard v root card →
        ueventDriver? v (below root (deviceNames card)) ≠ some "amdgpu" →
          ∀ w, (∀ q ∈ surveyReads v root, BelowDevice root card q.path ∨ q.Same v w) →
            survey (source w root) = survey (source v root) := by
  constructor
  · intro samples h
    constructor
    · intro card hcard g hg
      obtain ⟨⟨s, hs⟩, hvalues⟩ := value_of_survey h hcard
      exact ⟨_, numberOf_shown hs (mem_numberFiles g hg), hvalues g hg, Binary64.isNearest_ofWord _⟩
    · intro changed w hreads
      exact survey_changed h hreads
  · intro card hcard hother w hreads
    apply survey_of_same
    intro q hq
    exact (hreads q hq).resolve_left (not_belowDevice_of_mem hcard hother q hq)

/-- An amdgpu card, and a card whose `uevent` names no driver, with one number each. -/
def twoTree (busy other : String) : Tree where
  nodes :=
    [(["class"].map Path.ofString, .directory),
      (["class", "drm"].map Path.ofString, .directory),
      (["class", "drm", "card0"].map Path.ofString, .directory),
      (["class", "drm", "card0", "device"].map Path.ofString, .directory),
      (["class", "drm", "card0", "device", "uevent"].map Path.ofString,
        .file (Path.ofString "DRIVER=amdgpu\n")),
      (["class", "drm", "card0", "device", "gpu_busy_percent"].map Path.ofString,
        .file (Path.ofString busy)),
      (["class", "drm", "card1"].map Path.ofString, .directory),
      (["class", "drm", "card1", "device"].map Path.ofString, .directory),
      (["class", "drm", "card1", "device", "gpu_busy_percent"].map Path.ofString,
        .file (Path.ofString other))]
  distinct := by simp; decide

theorem isCard_twoTree :
    IsCard (twoTree "5\n" "7\n").view (Path.ofString "/") (Path.ofString "card0") ∧
      IsCard (twoTree "5\n" "7\n").view (Path.ofString "/") (Path.ofString "card1") := by
  have hnames : (twoTree "5\n" "7\n").view.names (below (Path.ofString "/") classNames) =
      .ok [Path.ofString "card0", Path.ofString "card1"] := by cbv
  have hcard : IsCardName (Path.ofString "card0") 0 := cardNumber?_lossy_iff.mp (by cbv)
  have hcard' : IsCardName (Path.ofString "card1") 1 := cardNumber?_lossy_iff.mp (by cbv)
  exact ⟨⟨⟨_, hnames, by simp⟩, 0, hcard⟩, ⟨⟨_, hnames, by simp⟩, 1, hcard'⟩⟩

theorem numberOf_twoTree {n : UInt64} (h : NumberOf (twoTree "5\n" "7\n").view (Path.ofString "/")
    (Path.ofString "card0") "gpu_busy_percent" n) : n = 5 := by
  have hdriver : ueventDriver? (twoTree "5\n" "7\n").view
      (below (Path.ofString "/") (deviceNames (Path.ofString "card0"))) = some "amdgpu" := by cbv
  have htext : (twoTree "5\n" "7\n").view.text (below (Path.ofString "/")
      (deviceFile (Path.ofString "card0") "gpu_busy_percent")) = .ok "5\n" := by cbv
  have hread : Text.readWord (Text.trimmed "5\n").toList = .ok 5 := by cbv
  obtain ⟨-, s, hs, -, hword⟩ | ⟨hblank, -⟩ := h
  · rw [htext] at hs
    obtain rfl := Except.ok.inj hs
    exact Except.ok.inj ((Text.readWord_eq_ok_iff.mpr hword).symm.trans hread)
  · exact absurd (hblank hdriver _ htext) (by cbv)

/-- A number that is shown as it is and changed to one that no double stands for, and what is no
number but is not read either. -/
theorem gauges_show_own_files_twoTree :
    ∃ samples,
      (survey (source (twoTree "5\n" "7\n").view (Path.ofString "/"))).outcome = .ok samples ∧
      NumberOf (twoTree "5\n" "7\n").view (Path.ofString "/") (Path.ofString "card0")
        "gpu_busy_percent" 5 ∧
      (ofCard Schema.busyPercent "card0" samples).map Sample.value = [⟨0x4014000000000000⟩] ∧
      Binary64.IsNearest ⟨0x4014000000000000⟩ 5 ∧
      (∃ samples', (survey (source (twoTree "9007199254740993\n" "7\n").view
          (Path.ofString "/"))).outcome = .ok samples' ∧
        List.Forall₂ (SameOrChanged
            (fun card g =>
              card = Path.ofString "card0" ∧ g = (Schema.busyPercent, "gpu_busy_percent"))
            (twoTree "5\n" "7\n").view (twoTree "9007199254740993\n" "7\n").view
            (Path.ofString "/"))
          samples samples') ∧
      survey (source (twoTree "5\n" "seven\n").view (Path.ofString "/")) =
        survey (source (twoTree "5\n" "7\n").view (Path.ofString "/")) := by
  have hcards : (allCards (twoTree "5\n" "7\n").view (Path.ofString "/")).outcome =
      .ok [⟨"card0", "amdgpu", false, []⟩, ⟨"card1", "", false, []⟩] := by cbv
  have hstats : (allStats (twoTree "5\n" "7\n").view (Path.ofString "/")).outcome =
      .ok [⟨"card0", 5, 0, 0, 0, 0, 0, 0, "", "", ""⟩, .nameOnly "card1"] := by cbv
  have hsurvey := (@Collector.survey_eq_ok_iff (source (twoTree "5\n" "7\n").view
    (Path.ofString "/")) _).mpr ⟨_, _, hcards, hstats, rfl⟩
  obtain ⟨hcard, hcard'⟩ := isCard_twoTree
  obtain ⟨hread, hunread⟩ :=
    gauges_show_own_files (twoTree "5\n" "7\n").view (Path.ofString "/")
  obtain ⟨hnumbers, hchanged⟩ := hread _ hsurvey
  obtain ⟨n, hn, hvalue, hnearest⟩ :=
    hnumbers _ hcard (Schema.busyPercent, "gpu_busy_percent") (by simp [gaugeFiles])
  obtain rfl := numberOf_twoTree hn
  have hbits : Binary64.ofWord 5 = ⟨0x4014000000000000⟩ := by decide
  rw [hbits] at hvalue hnearest
  refine ⟨_, hsurvey, hn, hvalue, hnearest, ?_, ?_⟩
  · apply hchanged
    have hreads : (surveyReads (twoTree "5\n" "7\n").view (Path.ofString "/")).all (fun q =>
        q = .text (below (Path.ofString "/")
          (deviceFile (Path.ofString "card0") "gpu_busy_percent")) ∨
        q.Same (twoTree "5\n" "7\n").view (twoTree "9007199254740993\n" "7\n").view) = true := by
      cbv
    have htext : (twoTree "9007199254740993\n" "7\n").view.text (below (Path.ofString "/")
        (deviceFile (Path.ofString "card0") "gpu_busy_percent")) = .ok "9007199254740993\n" := by
      cbv
    have hword : Text.IsWord (Text.trimmed "9007199254740993\n") 9007199254740993 :=
      Text.readWord_eq_ok_iff.mp (by cbv)
    intro q hq
    obtain rfl | hsame := of_decide_eq_true (List.all_eq_true.mp hreads q hq)
    · exact .inl ⟨_, rfl, _, _, ⟨rfl, rfl⟩, hcard, by simp [gaugeFiles], rfl,
        numeric_of_isWord htext hword⟩
    · exact .inr hsame
  · have hnone : ueventDriver? (twoTree "5\n" "7\n").view
        (below (Path.ofString "/") (deviceNames (Path.ofString "card1"))) = none := by cbv
    have hreads : (surveyReads (twoTree "5\n" "7\n").view (Path.ofString "/")).all (fun q =>
        q.Same (twoTree "5\n" "7\n").view (twoTree "5\n" "seven\n").view) = true := by cbv
    apply hunread _ hcard'
    · rw [hnone]
      simp
    · intro q hq
      exact .inr (of_decide_eq_true (List.all_eq_true.mp hreads q hq))

end CardTelemetry.Sysfs
