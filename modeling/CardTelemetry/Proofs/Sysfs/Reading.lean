import CardTelemetry.Proofs.Job.Outcome
import CardTelemetry.Sysfs.Source

/-!
# What reading a tree comes to

How the jobs that read cards and records end, said through what they read and without the
jobs. The only steps of these jobs are events about attributes that cannot be read, so they
take no time and note nothing else.
-/

namespace CardTelemetry.Sysfs

open Files (Path View)

/-- The text of an attribute that may be unreadable. -/
def attributeAt (v : View) (p : Path) : Option String :=
  match v.text p with
  | .ok s => some (Text.trimmed s)
  | .error _ => none

/-- The text of such an attribute in a directory, empty when unreadable. -/
def attributeText (v : View) (directory : Path) (file : String) : String :=
  (attributeAt v (directory.join (Path.ofString file))).getD ""

@[simp] theorem outcome_optional (v : View) (p : Path) :
    (optional v p).outcome = .ok (attributeAt v p) := by
  unfold optional attributeAt
  cases v.text p with
  | ok s => rfl
  | error f => cases h : f.isNoEntry <;> simp [h]

@[simp] theorem outcome_optionalText (v : View) (directory : Path) (file : String) :
    (optionalText v directory file).outcome = .ok (attributeText v directory file) := by
  rw [optionalText, Job.bind_eq_andThen, Job.outcome_andThen_of_ok (outcome_optional v _)]
  rfl

/-- The connector at an entry, as its attributes say. -/
def connectorRead (v : View) (card : String) (e : Entry) : Connector :=
  ⟨e.name, card, .ofText (attributeText v e.path "status"),
    .ofText (attributeText v e.path "enabled"), .ofText (attributeText v e.path "dpms")⟩

theorem outcome_connectorOf (v : View) (card : String) (e : Entry) :
    (connectorOf v card e).outcome = .ok (connectorRead v card e) := by
  simp only [connectorOf, Job.bind_eq_andThen, Job.outcome_andThen, outcome_optionalText]
  rfl

theorem outcome_connectorAt_eq_ok {v : View} {card : String} {e : Entry} {c : Option Connector} :
    (connectorAt v card e).outcome = .ok c ↔
      ∃ isDirectory, v.isDirectory e.path = .ok isDirectory ∧
        c = if isDirectory then some (connectorRead v card e) else none := by
  unfold connectorAt
  split
  · rename_i h
    rw [Job.outcome_andThen, outcome_connectorOf, h]
    simp [Except.bind, eq_comm]
  · rename_i h
    simp [h, eq_comm]
  · rename_i h
    simp [h]

/-- The entries that are listed as connectors of a card: named after it, and directories. -/
def connectorEntries (v : View) (card : String) (es : List Entry) : List Entry :=
  es.filter fun e => belongsTo card e && v.isDirectory e.path == .ok true

theorem filterMap_of_forall₂ {v : View} {card : String} {es : List Entry}
    {found : List (Option Connector)}
    (h : List.Forall₂ (fun e c => (connectorAt v card e).outcome = .ok c) es found) :
    found.filterMap id =
      (es.filter fun e => v.isDirectory e.path == .ok true).map (connectorRead v card) := by
  induction h with
  | nil => rfl
  | cons hc _ ih =>
    obtain ⟨isDirectory, hdirectory, rfl⟩ := outcome_connectorAt_eq_ok.mp hc
    rw [List.filter_cons, hdirectory]
    cases isDirectory <;> simpa using ih

/-- The connectors of a card are read where all its entries that are named after it can be looked
at, and those that are directories are listed in order. -/
theorem outcome_connectorsOf_eq_ok_iff {v : View} {card : Entry} {cs : List Connector} :
    (connectorsOf v card).outcome = .ok cs ↔
      ∃ es, entries v card.path = .ok es ∧
        (∀ e ∈ es, belongsTo card.name e = true → ∃ b, v.isDirectory e.path = .ok b) ∧
        cs = ((connectorEntries v card.name es).map
          (connectorRead v card.name)).mergeSort connectorNotAfter := by
  have hread {es : List Entry} {found : List (Option Connector)}
      (hfound : (Job.each (connectorAt v card.name) (es.filter (belongsTo card.name))).outcome =
        .ok found) :
      found.filterMap id =
        (connectorEntries v card.name es).map (connectorRead v card.name) := by
    rw [filterMap_of_forall₂ (Job.outcome_each_eq_ok.mp hfound), List.filter_filter]
    simp only [connectorEntries, Bool.and_comm]
  have hseen (es : List Entry) :
      (∃ found, (Job.each (connectorAt v card.name)
          (es.filter (belongsTo card.name))).outcome = .ok found) ↔
        ∀ e ∈ es, belongsTo card.name e = true → ∃ b, v.isDirectory e.path = .ok b := by
    rw [Job.exists_outcome_each_eq_ok]
    simp only [List.mem_filter, and_imp, outcome_connectorAt_eq_ok]
    refine forall₃_congr fun e _ _ => ?_
    constructor
    · intro h
      obtain ⟨_, b, hb, -⟩ := h
      exact ⟨b, hb⟩
    · intro h
      obtain ⟨b, hb⟩ := h
      exact ⟨_, b, hb, rfl⟩
  simp only [connectorsOf, Job.bind_eq_andThen, Job.outcome_andThen_eq_ok, Job.outcome_ofExcept,
    Job.pure_eq_done, Job.outcome_done, Except.ok.injEq]
  constructor
  · intro h
    obtain ⟨es, hes, found, hfound, hcs⟩ := h
    rw [hread hfound] at hcs
    exact ⟨es, hes, (hseen es).mp ⟨found, hfound⟩, hcs.symm⟩
  · intro h
    obtain ⟨es, hes, hdirectories, rfl⟩ := h
    obtain ⟨found, hfound⟩ := (hseen es).mpr hdirectories
    refine ⟨es, hes, found, hfound, ?_⟩
    rw [hread hfound]

/-- The connectors of a card are read from its entries that are listed as such. -/
theorem outcome_connectorsOf {v : View} {card : Entry} {cs : List Connector}
    (h : (connectorsOf v card).outcome = .ok cs) :
    ∃ es, entries v card.path = .ok es ∧
      cs.Perm ((connectorEntries v card.name es).map (connectorRead v card.name)) := by
  obtain ⟨es, hes, -, rfl⟩ := outcome_connectorsOf_eq_ok_iff.mp h
  exact ⟨es, hes, List.mergeSort_perm _ _⟩

theorem outcome_cardOf_eq_ok_iff {v : View} {e : Entry} {c : Card} :
    (cardOf v e).outcome = .ok c ↔
      c.name = e.name ∧ driver v (deviceOf e.path) = .ok c.driver ∧
        (∃ enable, requiredNumber v ((deviceOf e.path).join (Path.ofString "enable")) "enable" =
          .ok enable ∧ c.enabled = decide (0 < enable)) ∧
        (connectorsOf v e).outcome = .ok c.connectors := by
  simp only [cardOf, Job.bind_eq_andThen, Job.outcome_andThen_eq_ok, Job.pure_eq_done,
    Job.outcome_done, Job.outcome_ofExcept, Except.ok.injEq]
  constructor
  · intro h
    obtain ⟨driver, hdriver, enable, henable, connectors, hconnectors, rfl⟩ := h
    exact ⟨rfl, hdriver, ⟨enable, henable, rfl⟩, hconnectors⟩
  · intro h
    obtain ⟨name, driver, enabled, connectors⟩ := c
    obtain ⟨rfl, hdriver, ⟨enable, henable, rfl⟩, hconnectors⟩ := h
    exact ⟨driver, hdriver, enable, henable, connectors, hconnectors, rfl⟩

theorem outcome_cardOf {v : View} {e : Entry} {c : Card} (h : (cardOf v e).outcome = .ok c) :
    c.name = e.name ∧ (connectorsOf v e).outcome = .ok c.connectors := by
  obtain ⟨hname, -, -, hconnectors⟩ := outcome_cardOf_eq_ok_iff.mp h
  exact ⟨hname, hconnectors⟩

theorem name_of_deviceStats {v : View} {name : String} {device : Path} {s : CardStats}
    (h : (deviceStats v name device).outcome = .ok s) : s.name = name := by
  simp only [deviceStats, Job.bind_eq_andThen, Job.outcome_andThen_eq_ok, Job.pure_eq_done,
    Job.outcome_done] at h
  obtain ⟨_, -, _, -, _, -, _, -, _, -, _, -, _, -, _, -, _, -, _, -, hs⟩ := h
  cases hs
  rfl

theorem name_of_statsOf {v : View} {e : Entry} {s : CardStats}
    (h : (statsOf v e).outcome = .ok s) : s.name = e.name := by
  simp only [statsOf, Job.bind_eq_andThen, Job.outcome_andThen_eq_ok] at h
  obtain ⟨listed, -, h⟩ := h
  split at h
  · exact name_of_deviceStats h
  · cases h
    rfl

theorem outcome_allCards_eq_ok {v : View} {root : Path} {cards : List Card} :
    (allCards v root).outcome = .ok cards ↔
      ∃ es, cardEntries v root = .ok es ∧
        List.Forall₂ (fun e c => (cardOf v e).outcome = .ok c) es cards := by
  simp only [allCards, Job.bind_eq_andThen, Job.outcome_andThen_eq_ok, Job.outcome_ofExcept,
    Job.outcome_each_eq_ok]

theorem outcome_allStats_eq_ok {v : View} {root : Path} {stats : List CardStats} :
    (allStats v root).outcome = .ok stats ↔
      ∃ es, cardEntries v root = .ok es ∧
        List.Forall₂ (fun e s => (statsOf v e).outcome = .ok s) es stats := by
  simp only [allStats, Job.bind_eq_andThen, Job.outcome_andThen_eq_ok, Job.outcome_ofExcept,
    Job.outcome_each_eq_ok]

/-! ### Steps -/

/-- The step is an event about an attribute that cannot be read. -/
def IsAttributeNote (s : Step) : Prop :=
  ∃ path cause, s = .noted (.unreadableAttribute path cause)

theorem allSteps_optional (v : View) (p : Path) : (optional v p).AllSteps IsAttributeNote := by
  unfold optional
  split
  · exact Job.allSteps_done _
  · split
    · exact Job.allSteps_done _
    · intro s hs
      rw [List.mem_singleton] at hs
      exact ⟨_, _, hs⟩

theorem allSteps_optionalText (v : View) (directory : Path) (file : String) :
    (optionalText v directory file).AllSteps IsAttributeNote :=
  (allSteps_optional v _).andThen fun _ => Job.allSteps_done _

theorem allSteps_optionalNumber (v : View) (directory : Path) (file : String) :
    (optionalNumber v directory file).AllSteps IsAttributeNote :=
  (allSteps_optional v _).andThen fun _ => Job.allSteps_ofExcept _

theorem allSteps_connectorAt (v : View) (card : String) (e : Entry) :
    (connectorAt v card e).AllSteps IsAttributeNote := by
  unfold connectorAt
  split
  · apply Job.AllSteps.andThen
    · apply (allSteps_optionalText v _ _).andThen
      intro status
      apply (allSteps_optionalText v _ _).andThen
      intro enabled
      exact (allSteps_optionalText v _ _).andThen fun dpms => Job.allSteps_done _
    · exact fun c => Job.allSteps_done _
  · exact Job.allSteps_done _
  · exact Job.allSteps_fail _

theorem allSteps_cardOf (v : View) (e : Entry) : (cardOf v e).AllSteps IsAttributeNote := by
  simp only [cardOf, Job.bind_eq_andThen]
  refine (Job.allSteps_ofExcept _).andThen fun driver => ?_
  refine (Job.allSteps_ofExcept _).andThen fun enable => ?_
  apply Job.AllSteps.andThen
  · refine (Job.allSteps_ofExcept _).andThen fun es => ?_
    exact (Job.allSteps_each (allSteps_connectorAt v e.name) _).andThen
      fun cs => Job.allSteps_done _
  · exact fun cs => Job.allSteps_done _

theorem allSteps_deviceStats (v : View) (name : String) (device : Path) :
    (deviceStats v name device).AllSteps IsAttributeNote := by
  simp only [deviceStats, Job.bind_eq_andThen]
  iterate 7
    apply (allSteps_optionalNumber v device _).andThen
    intro number
  iterate 3
    apply (allSteps_optionalText v device _).andThen
    intro text
  exact Job.allSteps_done _

theorem allSteps_statsOf (v : View) (e : Entry) : (statsOf v e).AllSteps IsAttributeNote := by
  simp only [statsOf, Job.bind_eq_andThen]
  refine (Job.allSteps_ofExcept _).andThen fun listed => ?_
  split
  · exact allSteps_deviceStats v _ _
  · exact Job.allSteps_done _

theorem allSteps_source (v : View) (root : Path) :
    (source v root).cards.AllSteps IsAttributeNote ∧
      (source v root).stats.AllSteps IsAttributeNote :=
  ⟨(Job.allSteps_ofExcept _).andThen fun es => Job.allSteps_each (allSteps_cardOf v) es,
    (Job.allSteps_ofExcept _).andThen fun es => Job.allSteps_each (allSteps_statsOf v) es⟩

theorem IsAttributeNote.millis_eq_zero {s : Step} (h : IsAttributeNote s) : s.millis = 0 := by
  obtain ⟨path, cause, rfl⟩ := h
  rfl

end CardTelemetry.Sysfs
