import CardTelemetry.Proofs.Job.Alike
import CardTelemetry.Proofs.Sysfs.Dependence

/-!
# Surveys of trees that differ in texts

Where the answers that two trees give to a survey's questions differ only in texts that cannot make
a survey fail, the two surveys end alike, and what is found of each card can be compared. Events on
the way are not compared.
-/

namespace CardTelemetry

open Files (Name Path View)

namespace Sysfs

open Files.Path (below)
open Collector (connectorSamples enableSample infoSample survey)

namespace Read

/-- Two views give the same answer, or it is the text of a file that may differ. -/
def SameBut (differs : Path → Prop) (v w : View) (q : Read) : Prop :=
  (∃ p, q = .text p ∧ differs p) ∨ q.Same v w

variable {differs : Path → Prop} {v w : View} {p : Path}

theorem SameBut.names (h : SameBut differs v w (.names p)) : w.names p = v.names p := by
  obtain ⟨_, h, -⟩ | h := h
  · cases h
  · exact h

theorem SameBut.target (h : SameBut differs v w (.target p)) : w.target p = v.target p := by
  obtain ⟨_, h, -⟩ | h := h
  · cases h
  · exact h

theorem SameBut.isDirectory (h : SameBut differs v w (.isDirectory p)) :
    w.isDirectory p = v.isDirectory p := by
  obtain ⟨_, h, -⟩ | h := h
  · cases h
  · exact h

theorem SameBut.text (h : SameBut differs v w (.text p)) : differs p ∨ w.text p = v.text p := by
  obtain ⟨_, h, hp⟩ | h := h
  · cases h
    exact .inl hp
  · exact .inr h

theorem SameBut.text_eq (h : SameBut differs v w (.text p)) (hp : ¬ differs p) :
    w.text p = v.text p :=
  h.text.resolve_left hp

end Read

variable {differs : Path → Prop} {v w : View} {root : Path} {e : Entry}

/-- Jobs for the members of a list end alike as long as those do that are reached. -/
theorem alike_each {α β γ : Type} {P : Read → Prop} {f : α → Job β} {g : α → Job γ}
    {reads : α → List Read} {Q : α → Prop} {as : List α}
    (h : ∀ a ∈ as, (∀ q ∈ reads a, P q) → Alike (fun _ _ => Q a) (f a).outcome (g a).outcome)
    (hreads : ∀ q ∈ readsEach f reads as, P q) :
    Alike (fun _ _ => ∀ a ∈ as, Q a) (Job.each f as).outcome (Job.each g as).outcome := by
  induction as with
  | nil =>
    intro a ha
    cases ha
  | cons a as ih =>
    obtain ⟨hfirst, hrest⟩ := forall_mem_readsThen.mp hreads
    rw [List.forall_mem_cons] at h
    apply Job.alike_andThen (h.1 hfirst)
    intro b c hb _ hQ
    apply Job.alike_andThen (ih h.2 (hrest b hb))
    intro bs cs _ _ hQs
    exact List.forall_mem_cons.mpr ⟨hQ, hQs⟩

/-! ### Two views with the same answers -/

/-- The connectors found of a card are the same, but for attributes in files that may differ. -/
def ConnectorsAlike (differs : Path → Prop) (v w : View) (e : Entry) : Prop :=
  connectorsListed w e = connectorsListed v e ∧
    ∀ k ∈ connectorsListed v e, ∀ file ∈ attributeFiles,
      differs (k.path.join (Path.ofString file)) ∨
        w.text (k.path.join (Path.ofString file)) = v.text (k.path.join (Path.ofString file))

/-- What is found of a card is the same, but for attributes in files that may differ. -/
def CardAlike (differs : Path → Prop) (v w : View) (e : Entry) : Prop :=
  driverRead w (deviceOf e.path) = driverRead v (deviceOf e.path) ∧
    attributeNumber w (deviceOf e.path) "enable" = attributeNumber v (deviceOf e.path) "enable" ∧
    ConnectorsAlike differs v w e

/-- What is found of a card's record is the same, but for what is in files that may differ. -/
def RecordAlike (differs : Path → Prop) (v w : View) (e : Entry) : Prop :=
  ueventDriver? w (deviceOf e.path) = ueventDriver? v (deviceOf e.path) ∧
    (ueventDriver? v (deviceOf e.path) = some "amdgpu" → ∀ file ∈ recordFiles,
      differs ((deviceOf e.path).join (Path.ofString file)) ∨
        w.text ((deviceOf e.path).join (Path.ofString file)) =
          v.text ((deviceOf e.path).join (Path.ofString file)))

/-- A file that is missing, cannot be read or is blank, or holds a number of 64 bits. -/
def Numeric (v : View) (p : Path) : Prop := ∀ text, ¬ MalformedAt v p text

/-- The files of a card that may differ cannot make reading it fail. -/
structure Harmless (differs : Path → Prop) (v w : View) (e : Entry) : Prop where
  uevent : ¬ differs ((deviceOf e.path).join (Path.ofString "uevent"))
  enable : ¬ differs ((deviceOf e.path).join (Path.ofString "enable"))
  number : ueventDriver? v (deviceOf e.path) = some "amdgpu" → ∀ file ∈ numberFiles,
    differs ((deviceOf e.path).join (Path.ofString file)) →
      Numeric v ((deviceOf e.path).join (Path.ofString file)) ∧
        Numeric w ((deviceOf e.path).join (Path.ofString file))

theorem attributeAt_congr {p : Path} (h : w.text p = v.text p) :
    attributeAt w p = attributeAt v p := by
  rw [attributeAt, attributeAt, h]

theorem driver_congr {device : Path} (huevent : ¬ differs (device.join (Path.ofString "uevent")))
    (h : ∀ q ∈ driverReads v device, q.SameBut differs v w) :
    driver w device = driver v device := by
  obtain ⟨hlink, hnext⟩ := forall_mem_readsThen.mp h
  have htarget := (hlink _ (List.mem_singleton_self _)).target
  have hlinked : linkedDriver w device = linkedDriver v device := by
    simp only [linkedDriver, htarget]
  rw [driver, driver, hlinked]
  cases hv : linkedDriver v device with
  | error f => rfl
  | ok linked =>
    cases linked with
    | some d => rfl
    | none =>
      have htext := (hnext none hv _ (List.mem_singleton_self _)).text_eq huevent
      show (listedDriver w device).map _ = (listedDriver v device).map _
      rw [listedDriver_of_same htext]

theorem alike_connectorAt {card : String} (h : ∀ q ∈ connectorReads v e, q.SameBut differs v w) :
    Alike (fun _ _ => w.isDirectory e.path = v.isDirectory e.path ∧
        (v.isDirectory e.path = .ok true → ∀ file ∈ attributeFiles,
          differs (e.path.join (Path.ofString file)) ∨
            w.text (e.path.join (Path.ofString file)) = v.text (e.path.join (Path.ofString file))))
      (connectorAt v card e).outcome (connectorAt w card e).outcome := by
  obtain ⟨hfirst, hfiles⟩ := List.forall_mem_cons.mp h
  have hdirectory := hfirst.isDirectory
  unfold connectorAt
  rw [hdirectory]
  cases hv : v.isDirectory e.path with
  | error cause => exact rfl
  | ok b =>
    cases b with
    | false => exact ⟨rfl, fun h => by cases h⟩
    | true =>
      rw [hv, if_pos (beq_self_eq_true _)] at hfiles
      dsimp only
      rw [Job.outcome_andThen, Job.outcome_andThen, outcome_connectorOf, outcome_connectorOf]
      exact ⟨rfl, fun _ file hfile => (hfiles _ (List.mem_map_of_mem hfile)).text⟩

theorem alike_connectorsOf
    (hnames : w.names e.path = v.names e.path)
    (h : ∀ es, entries v e.path = .ok es →
      ∀ q ∈ readsEach (connectorAt v e.name) (connectorReads v) (es.filter (belongsTo e.name)),
        q.SameBut differs v w) :
    Alike (fun _ _ => ConnectorsAlike differs v w e) (connectorsOf v e).outcome
      (connectorsOf w e).outcome := by
  have hentries : entries w e.path = entries v e.path := entries_of_same hnames
  simp only [connectorsOf, Job.bind_eq_andThen, Job.pure_eq_done]
  apply Job.alike_andThen (alike_of_eq hentries fun _ _ => rfl)
  rintro es _ hes - rfl
  apply Job.alike_andThen (alike_each (fun k _ => alike_connectorAt) (h es hes))
  intro _ _ _ _ hfound
  have hdirectory : connectorEntries w e.name es = connectorEntries v e.name es := by
    apply List.filter_congr
    intro k hk
    cases hbelongs : belongsTo e.name k with
    | false => rfl
    | true => rw [(hfound k (List.mem_filter.mpr ⟨hk, hbelongs⟩)).1]
  refine ⟨?_, ?_⟩
  · rw [connectorsListed, connectorsListed, hentries, show entries v e.path = .ok es from hes]
    simp only [hdirectory]
  · intro k hk file hfile
    rw [connectorsListed, show entries v e.path = .ok es from hes, List.mem_mergeSort,
      connectorEntries, List.mem_filter, Bool.and_eq_true, beq_iff_eq] at hk
    obtain ⟨hk, hbelongs, hdirectory⟩ := hk
    exact (hfound k (List.mem_filter.mpr ⟨hk, hbelongs⟩)).2 hdirectory file hfile

theorem alike_cardOf (hsafe : Harmless differs v w e)
    (h : ∀ q ∈ cardReads v e, q.SameBut differs v w) :
    Alike (fun _ _ => CardAlike differs v w e) (cardOf v e).outcome (cardOf w e).outcome := by
  obtain ⟨hdriver, hnext⟩ := forall_mem_readsThen.mp h
  simp only [cardOf, Job.bind_eq_andThen, Job.pure_eq_done]
  have hsame := driver_congr hsafe.uevent hdriver
  apply Job.alike_andThen (alike_of_eq hsame fun _ _ => rfl)
  rintro d _ hd hd' rfl
  obtain ⟨henable, hnext⟩ := forall_mem_readsThen.mp (hnext d hd)
  have htext := (henable _ (List.mem_singleton_self _)).text_eq hsafe.enable
  have hsame : requiredNumber w ((deviceOf e.path).join (Path.ofString "enable")) "enable" =
      requiredNumber v ((deviceOf e.path).join (Path.ofString "enable")) "enable" := by
    rw [requiredNumber, requiredNumber, required_of_same htext]
  apply Job.alike_andThen (alike_of_eq hsame fun _ _ => rfl)
  rintro n _ hn hn' rfl
  obtain ⟨hnames, hconnectors⟩ := forall_mem_readsThen.mp (hnext n hn)
  have hnames := (hnames _ (List.mem_singleton_self _)).names
  apply Job.alike_andThen (alike_connectorsOf hnames hconnectors)
  intro _ _ _ _ hfound
  refine ⟨?_, ?_, hfound⟩
  · rw [← driver_eq_ok hd, ← driver_eq_ok hd']
  · rw [← requiredNumber_eq_ok hn, ← requiredNumber_eq_ok hn']

/-- A number that may differ does not make reading it fail. -/
theorem alike_optionalNumber {device : Path} {file : String}
    (hsafe : differs (device.join (Path.ofString file)) →
      Numeric v (device.join (Path.ofString file)) ∧ Numeric w (device.join (Path.ofString file)))
    (h : (Read.ofFile device file).SameBut differs v w) :
    Alike (fun _ _ => differs (device.join (Path.ofString file)) ∨
        w.text (device.join (Path.ofString file)) = v.text (device.join (Path.ofString file)))
      (optionalNumber v device file).outcome (optionalNumber w device file).outcome := by
  have hnumber {u : View} (hu : Numeric u (device.join (Path.ofString file))) :
      ∃ n, (optionalNumber u device file).outcome = .ok n := by
    cases hn : (optionalNumber u device file).outcome with
    | ok n => exact ⟨n, rfl⟩
    | error f =>
      rw [outcome_optionalNumber] at hn
      obtain ⟨text, htext, -⟩ := number_attributeAt_eq_error_iff.mp hn
      exact absurd htext (hu text)
  obtain hdiffers | htext := h.text
  · obtain ⟨hv, hw⟩ := hsafe hdiffers
    obtain ⟨n, hn⟩ := hnumber hv
    obtain ⟨m, hm⟩ := hnumber hw
    rw [hn, hm]
    exact .inl hdiffers
  · have hsame :
        (optionalNumber w device file).outcome = (optionalNumber v device file).outcome := by
      rw [outcome_optionalNumber, outcome_optionalNumber, attributeAt_congr htext]
    exact alike_of_eq hsame fun _ _ => .inr htext

/-- A number of a record is read, and the others after it. -/
theorem outcome_optionalNumber_andThen_eq_map {β : Type} {device : Path} {next : UInt64 → Job β}
    {file : String} {files : List String} {b : β}
    (hnext : (next (attributeNumber v device file)).outcome =
      (Job.each (optionalNumber v device) files).outcome.map fun _ => b) :
    ((optionalNumber v device file).andThen next).outcome =
      (Job.each (optionalNumber v device) (file :: files)).outcome.map fun _ => b := by
  rw [Job.each, Job.outcome_andThen, Job.outcome_andThen]
  cases hn : (optionalNumber v device file).outcome with
  | error f => rfl
  | ok n =>
    obtain rfl := outcome_optionalNumber_eq_ok hn
    show (next (attributeNumber v device file)).outcome = _
    rw [hnext]
    show _ = Except.map _ (Job.andThen _ _).outcome
    rw [Job.outcome_andThen]
    cases (Job.each (optionalNumber v device) files).outcome <;> rfl

/-- A record is read where its numbers are. -/
theorem outcome_deviceStats_eq (name : String) (device : Path) :
    (deviceStats v name device).outcome =
      (Job.each (optionalNumber v device) numberFiles).outcome.map fun _ =>
        recordOf name (attributeText v device) (attributeNumber v device) := by
  simp only [deviceStats, Job.bind_eq_andThen, Job.pure_eq_done, numberFiles]
  iterate 7 apply outcome_optionalNumber_andThen_eq_map
  rw [Job.outcome_andThen_of_ok (outcome_optionalText v _ _),
    Job.outcome_andThen_of_ok (outcome_optionalText v _ _),
    Job.outcome_andThen_of_ok (outcome_optionalText v _ _)]
  rfl

theorem alike_statsOf (hsafe : Harmless differs v w e)
    (h : ∀ q ∈ recordReads v e, q.SameBut differs v w) :
    Alike (fun _ _ => RecordAlike differs v w e) (statsOf v e).outcome (statsOf w e).outcome := by
  obtain ⟨huevent, hnext⟩ := forall_mem_readsThen.mp h
  have htext := (huevent _ (List.mem_singleton_self _)).text_eq hsafe.uevent
  have hdriver : ueventDriver? w (deviceOf e.path) = ueventDriver? v (deviceOf e.path) := by
    rw [ueventDriver?, ueventDriver?, attributeAt_congr htext]
  simp only [statsOf, Job.bind_eq_andThen, Job.pure_eq_done]
  apply Job.alike_andThen (alike_of_eq (listedDriver_of_same htext) fun _ _ => rfl)
  rintro listed _ hlisted - rfl
  have hnext := hnext listed hlisted
  by_cases hamdgpu : listed = some "amdgpu"
  · rw [if_pos hamdgpu] at hnext ⊢
    rw [if_pos hamdgpu]
    obtain ⟨hnumbers, htexts⟩ := forall_mem_readsThen.mp hnext
    have hnamed : ueventDriver? v (deviceOf e.path) = some "amdgpu" := by
      rw [← listedDriver_eq_ok hlisted, hamdgpu]
    have halike := alike_each
      (fun file hfile hread => alike_optionalNumber (hsafe.number hnamed file hfile)
        (hread _ (List.mem_singleton_self _))) hnumbers
    rw [outcome_deviceStats_eq, outcome_deviceStats_eq]
    obtain ⟨f, hf, hf'⟩ | ⟨ns, ns', hns, hns', hfound⟩ := alike_iff.mp halike
    · rw [hf, hf']
      exact rfl
    · rw [hns, hns']
      refine ⟨hdriver, fun _ file hfile => ?_⟩
      obtain hfile | hfile := List.mem_append.mp hfile
      · exact hfound file hfile
      · exact (htexts ns hns _ (List.mem_map_of_mem hfile)).text
  · rw [if_neg hamdgpu, if_neg hamdgpu]
    refine ⟨hdriver, fun h => absurd ?_ hamdgpu⟩
    rw [← h]
    exact listedDriver_eq_ok hlisted

/-! ### Surveys -/

/-- Jobs for all cards end alike as long as those do that are reached. -/
theorem alike_eachCard {β : Type} {job : View → Entry → Job β} {found : View → Entry → β}
    {reads : Entry → List Read} {Q : Entry → Prop}
    (hfound : ∀ u e b, (job u e).outcome = .ok b → b = found u e)
    (hjob : ∀ es, cardEntries v root = .ok es → ∀ e ∈ es,
      (∀ q ∈ reads e, q.SameBut differs v w) →
        Alike (fun _ _ => Q e) (job v e).outcome (job w e).outcome)
    (h : ∀ q ∈ eachCardReads v root (job v) reads, q.SameBut differs v w) :
    Alike (fun bs bs' => ∃ es, cardEntries v root = .ok es ∧ bs = es.map (found v) ∧
        bs' = es.map (found w) ∧ ∀ e ∈ es, Q e)
      ((Job.ofExcept (cardEntries v root)).andThen (Job.each (job v))).outcome
      ((Job.ofExcept (cardEntries w root)).andThen (Job.each (job w))).outcome := by
  obtain ⟨hnames, hnext⟩ := forall_mem_readsThen.mp h
  have hnames := (hnames _ (List.mem_singleton_self _)).names
  have hsame : cardEntries w root = cardEntries v root := by
    rw [cardEntries, cardEntries, entries_of_same hnames]
  apply Job.alike_andThen (alike_of_eq hsame fun _ _ => rfl)
  rintro es _ hes - rfl
  apply (alike_each (hjob es hes) (hnext es hes)).mono
  intro bs bs' hbs hbs' hQ
  exact ⟨es, hes, eq_map_of_each (hfound v) hbs, eq_map_of_each (hfound w) hbs', hQ⟩

theorem alike_allCards
    (hsafe : ∀ es, cardEntries v root = .ok es → ∀ e ∈ es, Harmless differs v w e)
    (h : ∀ q ∈ eachCardReads v root (cardOf v) (cardReads v), q.SameBut differs v w) :
    Alike (fun cards cards' => ∃ es, cardEntries v root = .ok es ∧ cards = es.map (cardRead v) ∧
        cards' = es.map (cardRead w) ∧ ∀ e ∈ es, CardAlike differs v w e)
      (allCards v root).outcome (allCards w root).outcome := by
  have hfound (u : View) (e : Entry) (c : Card) (hc : (cardOf u e).outcome = .ok c) :
      c = cardRead u e := eq_cardRead hc
  exact alike_eachCard hfound (fun es hes e he => alike_cardOf (hsafe es hes e he)) h

theorem alike_allStats
    (hsafe : ∀ es, cardEntries v root = .ok es → ∀ e ∈ es, Harmless differs v w e)
    (h : ∀ q ∈ eachCardReads v root (statsOf v) (recordReads v), q.SameBut differs v w) :
    Alike (fun stats stats' => ∃ es, cardEntries v root = .ok es ∧ stats = es.map (recordRead v) ∧
        stats' = es.map (recordRead w) ∧ ∀ e ∈ es, RecordAlike differs v w e)
      (allStats v root).outcome (allStats w root).outcome := by
  have hfound (u : View) (e : Entry) (s : CardStats) (hs : (statsOf u e).outcome = .ok s) :
      s = recordRead u e := eq_recordRead hs
  exact alike_eachCard hfound (fun es hes e he => alike_statsOf (hsafe es hes e he)) h

/-- **Surveys end alike where their reads do.** Texts may differ that cannot make a survey fail;
what the samples show is then the same but for what they show of these. -/
theorem alike_survey
    (hsafe : ∀ es, cardEntries v root = .ok es → ∀ e ∈ es, Harmless differs v w e)
    (h : ∀ q ∈ surveyReads v root, q.SameBut differs v w) :
    Alike (fun samples samples' => ∃ es, cardEntries v root = .ok es ∧
        samples = samplesRead v es ∧ samples' = samplesRead w es ∧
        ∀ e ∈ es, CardAlike differs v w e ∧ RecordAlike differs v w e)
      (survey (source v root)).outcome (survey (source w root)).outcome := by
  obtain ⟨hcards, hstats⟩ := forall_mem_readsThen.mp h
  rw [Collector.survey_outcome, Collector.survey_outcome]
  apply (alike_allCards hsafe hcards).bind
  rintro cards cards' hread - ⟨es, hes, rfl, rfl, hcard⟩
  apply (alike_allStats hsafe (hstats _ hread)).bind
  rintro stats stats' - - ⟨es', hes', rfl, rfl, hrecord⟩
  obtain rfl : es = es' := Except.ok.inj (hes.symm.trans hes')
  have hnames := nodup_name_of_cardEntries hes
  refine ⟨es, hes, surveySamples_read hnames, surveySamples_read hnames, ?_⟩
  exact fun e he => ⟨hcard e he, hrecord e he⟩

/-! ### Samples that are the same -/

theorem map_enableSample_congr {es : List Entry} (h : ∀ e ∈ es, CardAlike differs v w e) :
    (es.map fun e => enableSample (cardRead w e)) =
      es.map fun e => enableSample (cardRead v e) := by
  apply List.map_congr_left
  intro e he
  obtain ⟨-, henable, -⟩ := h e he
  simp only [enableSample, cardRead, henable]

theorem connectorRead_congr {card : String} {k : Entry}
    (h : ∀ file ∈ attributeFiles,
      w.text (k.path.join (Path.ofString file)) = v.text (k.path.join (Path.ofString file))) :
    connectorRead w card k = connectorRead v card k := by
  have htext (file : String) (hfile : file ∈ attributeFiles) :
      attributeText w k.path file = attributeText v k.path file := by
    rw [attributeText, attributeText, attributeAt_congr (h file hfile)]
  rw [connectorRead, connectorRead, htext "status" (by simp [attributeFiles]),
    htext "enabled" (by simp [attributeFiles]), htext "dpms" (by simp [attributeFiles])]

theorem connectorsSamples_congr (h : ConnectorsAlike differs v w e)
    (hnot : ∀ k ∈ connectorsListed v e, ∀ file ∈ attributeFiles,
      ¬ differs (k.path.join (Path.ofString file))) :
    connectorsSamples w e = connectorsSamples v e := by
  obtain ⟨hlisted, htext⟩ := h
  rw [connectorsSamples, connectorsSamples, hlisted]
  apply List.flatMap_congr
  intro k hk
  rw [connectorRead_congr fun file hfile =>
    (htext k hk file hfile).resolve_left (hnot k hk file hfile)]

/-- Connectors have no part in it where only files of devices differ. -/
theorem connectorsSamples_of_devices
    (hdevices : ∀ p, differs p → ∃ card file, (∃ number, IsCardName card number) ∧
      p = below root (deviceFile card file)) {card : Name} (hcard : IsCard v root card)
    (h : ConnectorsAlike differs v w (cardEntry root card)) :
    connectorsSamples w (cardEntry root card) = connectorsSamples v (cardEntry root card) := by
  apply connectorsSamples_congr h
  intro k hk file _ hdiffers
  obtain ⟨n, hn, rfl⟩ := mem_connectorsListed_iff.mp hk
  obtain ⟨card', file', ⟨_, hnumber'⟩, heq⟩ := hdevices _ hdiffers
  obtain ⟨_, hnumber⟩ := hcard.2
  exact cardFile_ne_deviceFile hnumber hnumber' ((belongsTo_iff hnumber).mp hn.2.1) file file' heq

/-- What is shown of a record's file is the same unless the file may differ. -/
theorem RecordAlike.shown (h : RecordAlike differs v w e) {file : String}
    (hfile : file ∈ recordFiles)
    (hnot : ¬ differs ((deviceOf e.path).join (Path.ofString file))) :
    textShown w (deviceOf e.path) file = textShown v (deviceOf e.path) file ∧
      numberShown w (deviceOf e.path) file = numberShown v (deviceOf e.path) file := by
  obtain ⟨hdriver, hfiles⟩ := h
  unfold textShown numberShown
  rw [hdriver]
  by_cases hamdgpu : ueventDriver? v (deviceOf e.path) = some "amdgpu"
  · have htext := attributeAt_congr ((hfiles hamdgpu file hfile).resolve_left hnot)
    rw [attributeText, attributeNumber, htext]
    exact ⟨rfl, rfl⟩
  · simp only [if_neg hamdgpu, and_self]

theorem recordOf_congr {name : String} {text text' : String → String}
    {number number' : String → UInt64} (htext : ∀ t ∈ textFiles, text' t.2 = text t.2)
    (hnumber : ∀ file ∈ numberFiles, number' file = number file) :
    recordOf name text' number' = recordOf name text number := by
  simp only [textFiles, List.forall_mem_cons] at htext
  simp only [numberFiles, List.forall_mem_cons] at hnumber
  simp only [recordOf, htext, hnumber]

theorem infoSample_congr {name driver : String} {text text' : String → String}
    {number number' : String → UInt64} (htext : ∀ t ∈ textFiles, text' t.2 = text t.2) :
    infoSample driver (recordOf name text' number') =
      infoSample driver (recordOf name text number) := by
  simp only [textFiles, List.forall_mem_cons] at htext
  simp only [infoSample, recordOf, htext]

theorem recordSamples_congr (hcard : CardAlike differs v w e) (h : RecordAlike differs v w e)
    (hnot : ∀ file ∈ recordFiles, ¬ differs ((deviceOf e.path).join (Path.ofString file))) :
    recordSamples w e = recordSamples v e := by
  have hshown (file : String) (hfile : file ∈ recordFiles) := h.shown hfile (hnot file hfile)
  have hrecord : recordRead w e = recordRead v e := by
    apply recordOf_congr
    · intro t ht
      exact (hshown t.2 (List.mem_append_right _ (List.mem_map_of_mem ht))).1
    · intro file hfile
      exact (hshown file (List.mem_append_left _ hfile)).2
  rw [recordSamples, recordSamples, hrecord, hcard.1]

end Sysfs

end CardTelemetry
