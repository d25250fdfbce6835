import CardTelemetry.Proofs.Sysfs.Reads

/-!
# A survey depends on its reads only

Where a tree gives the same answers to the questions that a survey puts to another, the surveys of
both are the same job: they take the same steps with the same events, and end in the same way. What
is not asked has no part in a survey, not even in its log.
-/

namespace CardTelemetry

open Files (Path View)

namespace Job

variable {α β : Type}

theorem andThen_congr {j j' : Job α} {next next' : α → Job β} (hj : j' = j)
    (hnext : ∀ a, j.outcome = .ok a → next' a = next a) : j'.andThen next' = j.andThen next := by
  subst hj
  unfold andThen
  cases hout : j'.outcome with
  | error f => rfl
  | ok a =>
    dsimp only
    rw [hnext a hout]

end Job

namespace Sysfs

variable {v w : View} {root : Path} {e : Entry}

/-! ### Reads in sequence -/

section Sequence

variable {α β : Type} {P : Read → Prop}

theorem each_congr {f g : α → Job β} {reads : α → List Read} {as : List α}
    (h : ∀ a ∈ as, (∀ q ∈ reads a, P q) → g a = f a)
    (hreads : ∀ q ∈ readsEach f reads as, P q) : Job.each g as = Job.each f as := by
  induction as with
  | nil => rfl
  | cons a rest ih =>
    obtain ⟨hfirst, hrest⟩ := forall_mem_readsThen.mp hreads
    rw [List.forall_mem_cons] at h
    apply Job.andThen_congr (h.1 hfirst)
    intro b hb
    rw [ih h.2 (hrest b hb)]

/-- What is read after jobs for a list is read after the first of them and the others. -/
theorem forall_mem_readsEach_cons {job : α → Job β} {reads : α → List Read} {a : α} {as : List α}
    {after : List Read}
    (h : ∀ q ∈ readsThen (readsEach job reads (a :: as)) (Job.each job (a :: as)).outcome
      fun _ => after, P q) :
    (∀ q ∈ reads a, P q) ∧ ∀ b, (job a).outcome = .ok b →
      ∀ q ∈ readsThen (readsEach job reads as) (Job.each job as).outcome fun _ => after, P q := by
  obtain ⟨hreads, hafter⟩ := forall_mem_readsThen.mp h
  obtain ⟨hfirst, hrest⟩ := forall_mem_readsThen.mp hreads
  refine ⟨hfirst, ?_⟩
  intro b hb
  refine forall_mem_readsThen.mpr ⟨hrest b hb, ?_⟩
  intro bs hbs
  apply hafter (b :: bs)
  rw [Job.each, Job.outcome_andThen, hb]
  show ((Job.each job as).andThen _).outcome = _
  rw [Job.outcome_andThen, hbs]
  rfl

end Sequence

/-! ### Attributes -/

theorem required_of_same {p : Path} (h : (Read.text p).Same v w) : required w p = required v p := by
  have htext : w.text p = v.text p := h
  rw [required, required, htext]

theorem optional_of_same {p : Path} (h : (Read.text p).Same v w) : optional w p = optional v p := by
  have htext : w.text p = v.text p := h
  rw [optional, optional, htext]

theorem optionalText_of_same {directory : Path} {file : String}
    (h : (Read.ofFile directory file).Same v w) :
    optionalText w directory file = optionalText v directory file := by
  rw [optionalText, optionalText, optional_of_same h]

theorem optionalNumber_of_same {directory : Path} {file : String}
    (h : (Read.ofFile directory file).Same v w) :
    optionalNumber w directory file = optionalNumber v directory file := by
  rw [optionalNumber, optionalNumber, optional_of_same h]

theorem listedDriver_of_same {device : Path} (h : (Read.ofFile device "uevent").Same v w) :
    listedDriver w device = listedDriver v device := by
  rw [listedDriver, listedDriver, required_of_same h]

theorem driver_of_same {device : Path} (h : ∀ q ∈ driverReads v device, q.Same v w) :
    driver w device = driver v device := by
  obtain ⟨hlink, hnext⟩ := forall_mem_readsThen.mp h
  have htarget : w.target (device.join (Path.ofString "driver")) =
      v.target (device.join (Path.ofString "driver")) := hlink _ (List.mem_singleton_self _)
  have hlinked : linkedDriver w device = linkedDriver v device := by
    simp only [linkedDriver, htarget]
  rw [driver, driver, hlinked]
  cases hv : linkedDriver v device with
  | error f => rfl
  | ok linked =>
    cases linked with
    | some d => rfl
    | none =>
      have hlisted := listedDriver_of_same (hnext none hv _ (List.mem_singleton_self _))
      show (listedDriver w device).map _ = (listedDriver v device).map _
      rw [hlisted]

theorem entries_of_same {p : Path} (h : (Read.names p).Same v w) : entries w p = entries v p := by
  have hnames : w.names p = v.names p := h
  rw [entries, entries, hnames]

/-! ### Cards -/

theorem connectorAt_of_same {card : String} (h : ∀ q ∈ connectorReads v e, q.Same v w) :
    connectorAt w card e = connectorAt v card e := by
  obtain ⟨hdirectory, hfiles⟩ := List.forall_mem_cons.mp h
  have hdirectory : w.isDirectory e.path = v.isDirectory e.path := hdirectory
  unfold connectorAt
  rw [hdirectory]
  cases hv : v.isDirectory e.path with
  | error f => rfl
  | ok b =>
    cases b with
    | false => rfl
    | true =>
      rw [hv, if_pos (beq_self_eq_true _)] at hfiles
      have htext (file : String) (hfile : file ∈ attributeFiles) :
          optionalText w e.path file = optionalText v e.path file :=
        optionalText_of_same (hfiles _ (List.mem_map_of_mem hfile))
      dsimp only
      rw [connectorOf, connectorOf, htext "status" (by simp [attributeFiles]),
        htext "enabled" (by simp [attributeFiles]), htext "dpms" (by simp [attributeFiles])]

theorem cardOf_of_same (h : ∀ q ∈ cardReads v e, q.Same v w) : cardOf w e = cardOf v e := by
  obtain ⟨hdriver, hnext⟩ := forall_mem_readsThen.mp h
  simp only [cardOf, connectorsOf, Job.bind_eq_andThen]
  apply Job.andThen_congr (congrArg Job.ofExcept (driver_of_same hdriver))
  intro d hd
  obtain ⟨henable, hnext⟩ := forall_mem_readsThen.mp (hnext d hd)
  have henable := required_of_same (henable _ (List.mem_singleton_self _))
  have hsame : requiredNumber w ((deviceOf e.path).join (Path.ofString "enable")) "enable" =
      requiredNumber v ((deviceOf e.path).join (Path.ofString "enable")) "enable" := by
    rw [requiredNumber, requiredNumber, henable]
  apply Job.andThen_congr (congrArg Job.ofExcept hsame)
  intro n hn
  obtain ⟨hnames, hconnectors⟩ := forall_mem_readsThen.mp (hnext n hn)
  have hentries := entries_of_same (hnames _ (List.mem_singleton_self _))
  refine Job.andThen_congr ?_ fun _ _ => rfl
  apply Job.andThen_congr (congrArg Job.ofExcept hentries)
  intro es hes
  refine Job.andThen_congr ?_ fun _ _ => rfl
  exact each_congr (fun _ _ => connectorAt_of_same) (hconnectors es hes)

/-! ### Records -/

theorem optionalNumber_andThen_of_same {β : Type} {next next' : UInt64 → Job β} {device : Path}
    {file : String} {files : List String}
    (h : ∀ q ∈ recordReadsFrom v device (file :: files), q.Same v w)
    (hnext : ∀ n, (∀ q ∈ recordReadsFrom v device files, q.Same v w) → next' n = next n) :
    (optionalNumber w device file).andThen next' = (optionalNumber v device file).andThen next := by
  obtain ⟨hread, hrest⟩ := forall_mem_readsEach_cons h
  apply Job.andThen_congr (optionalNumber_of_same (hread _ (List.mem_singleton_self _)))
  intro n hn
  exact hnext n (hrest n hn)

theorem deviceStats_of_same {device : Path} (name : String)
    (h : ∀ q ∈ recordReadsFrom v device numberFiles, q.Same v w) :
    deviceStats w name device = deviceStats v name device := by
  simp only [deviceStats, Job.bind_eq_andThen]
  -- the numbers one by one, until only the texts are left
  iterate 7
    refine optionalNumber_andThen_of_same h ?_
    clear h
    intro _ h
  obtain ⟨-, htexts⟩ := forall_mem_readsThen.mp h
  have htext (file : String) (hfile : file ∈ textFiles.map Prod.snd) :
      optionalText w device file = optionalText v device file :=
    optionalText_of_same (htexts [] rfl _ (List.mem_map_of_mem hfile))
  rw [htext "mem_info_vram_vendor" (by decide), htext "power_dpm_force_performance_level" (by decide),
    htext "unique_id" (by decide)]

theorem statsOf_of_same (h : ∀ q ∈ recordReads v e, q.Same v w) : statsOf w e = statsOf v e := by
  obtain ⟨huevent, hnext⟩ := forall_mem_readsThen.mp h
  simp only [statsOf, Job.bind_eq_andThen]
  have hlisted := listedDriver_of_same (huevent _ (List.mem_singleton_self _))
  apply Job.andThen_congr (congrArg Job.ofExcept hlisted)
  intro listed hv
  have hnext := hnext listed hv
  by_cases hamdgpu : listed = some "amdgpu"
  · rw [if_pos hamdgpu] at hnext
    rw [if_pos hamdgpu, if_pos hamdgpu, deviceStats_of_same e.name hnext]
  · rw [if_neg hamdgpu, if_neg hamdgpu]

/-! ### Surveys -/

theorem eachCard_of_same {β : Type} {job : View → Entry → Job β} {reads : Entry → List Read}
    (hjob : ∀ e, (∀ q ∈ reads e, q.Same v w) → job w e = job v e)
    (h : ∀ q ∈ eachCardReads v root (job v) reads, q.Same v w) :
    (Job.ofExcept (cardEntries w root)).andThen (Job.each (job w)) =
      (Job.ofExcept (cardEntries v root)).andThen (Job.each (job v)) := by
  obtain ⟨hnames, hnext⟩ := forall_mem_readsThen.mp h
  have hentries := entries_of_same (hnames _ (List.mem_singleton_self _))
  have hsame : cardEntries w root = cardEntries v root := by
    rw [cardEntries, cardEntries, hentries]
  apply Job.andThen_congr (congrArg Job.ofExcept hsame)
  intro es hes
  exact each_congr (fun e _ => hjob e) (hnext es hes)

/-- **A survey depends on its reads only**, with all of its steps. -/
theorem survey_of_same (h : ∀ q ∈ surveyReads v root, q.Same v w) :
    Collector.survey (source w root) = Collector.survey (source v root) := by
  obtain ⟨hcards, hstats⟩ := forall_mem_readsThen.mp h
  rw [Collector.survey_eq, Collector.survey_eq]
  refine Job.andThen_congr rfl fun _ _ => ?_
  apply Job.andThen_congr (eachCard_of_same (fun _ => cardOf_of_same) hcards)
  intro cards hread
  refine Job.andThen_congr rfl fun _ _ => ?_
  exact Job.andThen_congr (eachCard_of_same (fun _ => statsOf_of_same) (hstats cards hread))
    fun _ _ => rfl

end Sysfs

end CardTelemetry
