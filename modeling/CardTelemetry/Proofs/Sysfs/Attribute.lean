import CardTelemetry.Proofs.Job.Failure
import CardTelemetry.Proofs.Sysfs.Reading
import CardTelemetry.Proofs.Text.Numeral

/-!
# What attributes and links give

For each kind of attribute it is said when reading it fails, with what, and what it gives
otherwise. A link and a file can each name a device's driver; which of them is asked when is
said here too. Faults carry the path that was read.
-/

namespace CardTelemetry.Sysfs

open Files (Name Path View)
open Text.Utf8 (lossy)

variable {v : View} {p device : Path} {f : Fault}

/-! ### Attributes -/

theorem isNoEntry_iff {cause : Files.Failure} : cause.isNoEntry = true ↔ cause = .noEntry := by
  rw [Files.Failure.isNoEntry, beq_iff_eq]

theorem attributeAt_eq_some_iff {text : String} :
    attributeAt v p = some text ↔ ∃ s, v.text p = .ok s ∧ text = Text.trimmed s := by
  unfold attributeAt
  cases v.text p with
  | ok s => simp [eq_comm]
  | error cause => simp

theorem required_of_text {s : String} (h : v.text p = .ok s) :
    required v p = .ok (some (Text.trimmed s)) := by rw [required, h]

theorem required_eq_error_iff :
    required v p = .error f ↔
      ∃ cause, v.text p = .error cause ∧ cause ≠ .noEntry ∧ f = .unreadable p.text cause := by
  unfold required
  cases v.text p with
  | ok s => simp
  | error cause =>
    have hmissing : cause = .noEntry ↔ cause.isNoEntry = true := isNoEntry_iff.symm
    by_cases hcause : cause.isNoEntry = true
    · simp [hcause, hmissing]
    · simp [hcause, hmissing, eq_comm]

theorem required_eq_ok {text : Option String} (h : required v p = .ok text) :
    text = attributeAt v p := by
  unfold required at h
  unfold attributeAt
  cases htext : v.text p with
  | ok s =>
    rw [htext] at h
    exact (Except.ok.inj h).symm
  | error cause =>
    rw [htext] at h
    by_cases hcause : cause.isNoEntry = true
    · simp only [hcause, if_true] at h
      exact (Except.ok.inj h).symm
    · simp only [hcause] at h
      cases h

/-- The number that an attribute's text writes; none at all, and a text that writes none, give 0. -/
def wordIn : Option String → UInt64
  | none => 0
  | some s =>
    match Text.readWord s.toList with
    | .ok n => n
    | .error _ => 0

/-- The number that a file of a directory writes. -/
def attributeNumber (v : View) (directory : Path) (file : String) : UInt64 :=
  wordIn (attributeAt v (directory.join (Path.ofString file)))

theorem number_eq_error_iff {field : String} {text : Option String} :
    number p field text = .error f ↔
      ∃ s, text = some s ∧ s ≠ "" ∧ (∀ n, ¬ Text.IsWord s n) ∧ f = .malformed p.text field s := by
  cases text with
  | none => simp [number]
  | some s =>
    by_cases hs : s = ""
    · simp [number, hs]
    · cases hread : Text.readWord s.toList with
      | ok n =>
        have hword := Text.readWord_eq_ok_iff.mp hread
        simp only [number, hs, if_false, hread]
        refine iff_of_false (by intro h; cases h) ?_
        intro h
        obtain ⟨s', hs', -, hnone, -⟩ := h
        cases hs'
        exact hnone n hword
      | error e =>
        have hnone (n : UInt64) : ¬ Text.IsWord s n := by
          intro hword
          rw [Text.readWord_eq_ok_iff.mpr hword] at hread
          cases hread
        simp [number, hs, hread, hnone, eq_comm]

theorem number_eq_ok {field : String} {text : Option String} {n : UInt64}
    (h : number p field text = .ok n) : n = wordIn text := by
  cases text with
  | none => exact (Except.ok.inj h).symm
  | some s =>
    by_cases hs : s = ""
    · subst hs
      exact (Except.ok.inj h).symm
    · simp only [number, hs, if_false] at h
      cases hread : Text.readWord s.toList with
      | ok m =>
        rw [hread] at h
        rw [wordIn, hread]
        exact (Except.ok.inj h).symm
      | error e =>
        rw [hread] at h
        cases h

/-- A file that can be read holds neither a blank text nor a number of 64 bits. -/
def MalformedAt (v : View) (p : Path) (text : String) : Prop :=
  (∃ s, v.text p = .ok s ∧ text = Text.trimmed s) ∧ text ≠ "" ∧ ∀ n, ¬ Text.IsWord text n

theorem number_attributeAt_eq_error_iff {field : String} :
    number p field (attributeAt v p) = .error f ↔
      ∃ text, MalformedAt v p text ∧ f = .malformed p.text field text := by
  rw [number_eq_error_iff]
  simp only [attributeAt_eq_some_iff, MalformedAt, and_assoc]

/-- A required number is missing a readable file, or a number in it. -/
theorem requiredNumber_eq_error_iff {field : String} :
    requiredNumber v p field = .error f ↔
      (∃ cause, v.text p = .error cause ∧ cause ≠ .noEntry ∧ f = .unreadable p.text cause) ∨
        ∃ text, MalformedAt v p text ∧ f = .malformed p.text field text := by
  have hnumber (text : Option String) (htext : required v p = .ok text) :
      number p field text = .error f ↔
        ∃ text, MalformedAt v p text ∧ f = .malformed p.text field text := by
    rw [required_eq_ok htext]
    exact number_attributeAt_eq_error_iff
  unfold requiredNumber
  rw [Job.bind_eq_error_iff (fun g => required_eq_error_iff) hnumber]
  constructor
  · intro h
    exact h.imp_right And.right
  · intro h
    obtain h | h := h
    · exact .inl h
    · refine .inr ⟨?_, h⟩
      -- what can be read is not unreadable
      obtain ⟨text, ⟨⟨s, hs, -⟩, -⟩, -⟩ := h
      intro g hg
      obtain ⟨cause, hcause, -⟩ := hg
      rw [hs] at hcause
      cases hcause

theorem outcome_optionalNumber (v : View) (directory : Path) (file : String) :
    (optionalNumber v directory file).outcome =
      number (directory.join (Path.ofString file)) file
        (attributeAt v (directory.join (Path.ofString file))) := by
  rw [optionalNumber, Job.bind_eq_andThen, Job.outcome_andThen_of_ok (outcome_optional v _)]
  rfl

theorem outcome_optionalNumber_eq_ok {directory : Path} {file : String} {n : UInt64}
    (h : (optionalNumber v directory file).outcome = .ok n) : n = attributeNumber v directory file := by
  rw [outcome_optionalNumber] at h
  exact number_eq_ok h

/-! ### Attributes of connectors -/

/-- A text that is empty when there is none is a word exactly when the word is there. -/
theorem attributeText_eq_iff {directory : Path} {file word : String} (hword : word ≠ "") :
    attributeText v directory file = word ↔
      attributeAt v (directory.join (Path.ofString file)) = some word := by
  unfold attributeText
  cases attributeAt v (directory.join (Path.ofString file)) with
  | none => simp [Ne.symm hword]
  | some s => simp

section Connector

variable {card : String} {k : Entry}

theorem status_connectorRead_iff :
    (connectorRead v card k).status = .connected ↔
      attributeAt v (k.path.join (Path.ofString "status")) = some "connected" := by
  rw [← attributeText_eq_iff (by decide), connectorRead, ConnectorStatus.ofText]
  split_ifs with h h' <;> simp [h]

theorem enabled_connectorRead_iff :
    (connectorRead v card k).enabled = .enabled ↔
      attributeAt v (k.path.join (Path.ofString "enabled")) = some "enabled" := by
  rw [← attributeText_eq_iff (by decide), connectorRead, ConnectorEnabled.ofText]
  split_ifs with h h' <;> simp [h]

theorem dpms_connectorRead_iff :
    (connectorRead v card k).dpms = .on ↔
      attributeAt v (k.path.join (Path.ofString "dpms")) = some "On" := by
  rw [← attributeText_eq_iff (by decide), connectorRead, Dpms.ofText]
  split_ifs with h h' <;> simp [h]

end Connector

/-! ### Drivers -/

/-- The last name in the target of a link, if there is a link and its target has one. -/
def linkName? (v : View) (p : Path) : Option Name :=
  match v.target p with
  | .ok target => target.fileName?
  | .error _ => none

/-- The driver that a device's `uevent` names, if it can be read and names one. -/
def ueventDriver? (v : View) (device : Path) : Option String :=
  (attributeAt v (device.join (Path.ofString "uevent"))).bind namedDriver?

/-- The driver of a device: what its link names, else what its `uevent` names, else nothing. -/
def driverRead (v : View) (device : Path) : String :=
  match linkName? v (device.join (Path.ofString "driver")) with
  | some n => lossy n
  | none => (ueventDriver? v device).getD ""

/-- There is nothing here, or nothing that could have a target. -/
def IsNoLink (cause : Files.Failure) : Prop :=
  cause = .noEntry ∨ cause = .invalidArgument ∨ cause = .nulInPath

theorem isNoLink_iff {cause : Files.Failure} :
    (cause.isNoEntry || cause.isInvalidInput) = true ↔ IsNoLink cause := by
  simp [IsNoLink, Files.Failure.isNoEntry, Files.Failure.isInvalidInput]

theorem linkedDriver_eq_error_iff :
    linkedDriver v device = .error f ↔
      ∃ cause, v.target (device.join (Path.ofString "driver")) = .error cause ∧
        ¬ IsNoLink cause ∧
        f = .unreadable (device.join (Path.ofString "driver")).text cause := by
  simp only [linkedDriver]
  cases v.target (device.join (Path.ofString "driver")) with
  | ok target => simp
  | error cause =>
    by_cases hcause : (cause.isNoEntry || cause.isInvalidInput) = true
    · have hnone := isNoLink_iff.mp hcause
      simp only [hcause, if_true]
      simp [hnone]
    · have hsome : ¬ IsNoLink cause := fun h => hcause (isNoLink_iff.mpr h)
      simp only [hcause]
      simp [hsome, eq_comm]

theorem linkedDriver_eq_ok {linked : Option String} (h : linkedDriver v device = .ok linked) :
    linked = (linkName? v (device.join (Path.ofString "driver"))).map lossy := by
  simp only [linkedDriver] at h
  unfold linkName?
  cases htarget : v.target (device.join (Path.ofString "driver")) with
  | ok target =>
    rw [htarget] at h
    exact (Except.ok.inj h).symm
  | error cause =>
    rw [htarget] at h
    by_cases hcause : (cause.isNoEntry || cause.isInvalidInput) = true
    · simp only [hcause, if_true] at h
      exact (Except.ok.inj h).symm
    · simp only [hcause] at h
      cases h

theorem listedDriver_eq_error_iff :
    listedDriver v device = .error f ↔
      ∃ cause, v.text (device.join (Path.ofString "uevent")) = .error cause ∧
        cause ≠ .noEntry ∧
        f = .unreadable (device.join (Path.ofString "uevent")).text cause := by
  rw [← required_eq_error_iff, listedDriver]
  cases required v (device.join (Path.ofString "uevent")) with
  | ok text => simp [Except.map]
  | error g => simp [Except.map]

theorem listedDriver_eq_ok {listed : Option String} (h : listedDriver v device = .ok listed) :
    listed = ueventDriver? v device := by
  unfold listedDriver at h
  cases htext : required v (device.join (Path.ofString "uevent")) with
  | ok text =>
    rw [htext] at h
    rw [ueventDriver?, ← required_eq_ok htext]
    exact (Except.ok.inj h).symm
  | error g =>
    rw [htext] at h
    cases h

/-- The `uevent` is asked only where the link names no driver. -/
theorem driver_eq_error_iff :
    driver v device = .error f ↔
      linkedDriver v device = .error f ∨ (∀ g, linkedDriver v device ≠ .error g) ∧
        linkName? v (device.join (Path.ofString "driver")) = none ∧
          listedDriver v device = .error f := by
  unfold driver
  apply Job.bind_eq_error_iff (fun g => Iff.rfl)
  intro linked hlinked
  rw [linkedDriver_eq_ok hlinked]
  cases linkName? v (device.join (Path.ofString "driver")) with
  | some n => simp
  | none =>
    cases listedDriver v device with
    | ok listed => simp [Except.map]
    | error g => simp [Except.map]

theorem driver_eq_ok {d : String} (h : driver v device = .ok d) : d = driverRead v device := by
  unfold driver at h
  unfold driverRead
  cases hlinked : linkedDriver v device with
  | error g =>
    rw [hlinked] at h
    cases h
  | ok linked =>
    rw [hlinked, linkedDriver_eq_ok hlinked] at h
    cases hname : linkName? v (device.join (Path.ofString "driver")) with
    | some n =>
      rw [hname] at h
      exact (Except.ok.inj h).symm
    | none =>
      rw [hname] at h
      cases hlisted : listedDriver v device with
      | error g =>
        simp only [Except.bind, Option.map_none, hlisted, Except.map] at h
        cases h
      | ok listed =>
        simp only [Except.bind, Option.map_none, hlisted, Except.map] at h
        rw [← listedDriver_eq_ok hlisted]
        exact (Except.ok.inj h).symm

end CardTelemetry.Sysfs
