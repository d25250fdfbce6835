import CardTelemetry.Proofs.Files.LastName
import CardTelemetry.Proofs.Sysfs.Place
import CardTelemetry.Proofs.Sysfs.Uevent

/-!
# Why a tree cannot be read

The steps in which a card, and in which a record, is read, and what each of them fails with. A
reading of all cards fails exactly where the first failing step of the first failing card does,
in the order of numbers and names, or where the directory of cards cannot be listed. Nothing
else in a tree makes it fail. The paths in faults are spelled out from the root as it was given.
-/

namespace CardTelemetry.Sysfs

open Files (Name Path View)
open Files.Path (IsLastName below spelled)
open Text.Utf8 (bytes)

variable {v : View} {root : Path} {f : Fault}

/-! ### What can fail -/

/-- The target of a device's link ends with a name. -/
def LinkNames (v : View) (root : Path) (card n : Name) : Prop :=
  ∃ target, v.target (below root (deviceFile card "driver")) = .ok target ∧ IsLastName target n

/-- A device's `uevent` names a driver. -/
def UeventNames (v : View) (root : Path) (card : Name) (d : String) : Prop :=
  ∃ s, v.text (below root (deviceFile card "uevent")) = .ok s ∧ NamesDriver s d

/-- The names in a directory cannot be listed. -/
def Unlisted (v : View) (root : Path) (names : List Name) (f : Fault) : Prop :=
  ∃ cause, v.names (below root names) = .error cause ∧ f = .unreadable (spelled root names) cause

/-- A file is there, or may be, and cannot be read as text. -/
def Unreadable (v : View) (root : Path) (names : List Name) (f : Fault) : Prop :=
  ∃ cause, v.text (below root names) = .error cause ∧ cause ≠ .noEntry ∧
    f = .unreadable (spelled root names) cause

/-- A file holds a text that is to be a number of 64 bits, and what is between its blanks is neither
one nor nothing. -/
def Malformed (v : View) (root : Path) (names : List Name) (field : String) (f : Fault) : Prop :=
  ∃ s text, v.text (below root names) = .ok s ∧ Text.Trims s.toList text.toList ∧ text ≠ "" ∧
    (∀ n, ¬ Text.IsWord text n) ∧ f = .malformed (spelled root names) field text

/-- An entry named after a card cannot be looked at. -/
def UnseenConnector (v : View) (root : Path) (card : Name) (n : Name) (f : Fault) : Prop :=
  card ++ Path.ofString "-" <+: n ∧
    ∃ cause, v.isDirectory (below root (cardNames card ++ [n])) = .error cause ∧
      f = .unreadable (spelled root (cardNames card ++ [n])) cause

/-- The steps in which a card is read. -/
inductive CardStep where
  | link
  | uevent
  | enable
  | listing
  | connectors

namespace CardStep

def order : List CardStep := [link, uevent, enable, listing, connectors]

/-- What a step of reading a card fails with. -/
def Fails (v : View) (root : Path) (card : Name) : CardStep → Fault → Prop
  | link, f =>
    ∃ cause, v.target (below root (deviceFile card "driver")) = .error cause ∧
      ¬ IsNoLink cause ∧ f = .unreadable (spelled root (deviceFile card "driver")) cause
  | uevent, f =>
    (¬ ∃ n, LinkNames v root card n) ∧ Unreadable v root (deviceFile card "uevent") f
  | enable, f =>
    Unreadable v root (deviceFile card "enable") f ∨
      Malformed v root (deviceFile card "enable") "enable" f
  | listing, f => Unlisted v root (cardNames card) f
  | connectors, f =>
    ∃ ns, v.names (below root (cardNames card)) = .ok ns ∧
      FirstFailure (UnseenConnector v root card) ns f

end CardStep

/-- The files of the numbers in a record, in the order in which they are read. -/
def numberFiles : List String :=
  ["gpu_busy_percent", "mem_info_gtt_total", "mem_info_gtt_used", "mem_info_vis_vram_total",
    "mem_info_vis_vram_used", "mem_info_vram_total", "mem_info_vram_used"]

/-- The steps in which a record is read that can fail. -/
inductive StatsStep where
  | uevent
  | number (file : String)

namespace StatsStep

def order : List StatsStep := uevent :: numberFiles.map number

/-- What a step of reading a record fails with. -/
def Fails (v : View) (root : Path) (card : Name) : StatsStep → Fault → Prop
  | uevent, f => Unreadable v root (deviceFile card "uevent") f
  | number file, f =>
    UeventNames v root card "amdgpu" ∧ Malformed v root (deviceFile card file) file f

end StatsStep

/-- The first card, by number and name, for which something fails, and what it fails with. -/
def FirstCardFailure (v : View) (root : Path) (Fails : Name → Fault → Prop) (f : Fault) : Prop :=
  ∃ card, IsCard v root card ∧ Fails card f ∧
    ∀ other, IsCard v root other → CardBefore other card → ∀ g, ¬ Fails other g

/-! ### Cards in order -/

theorem entries_eq_error_iff {directory : Path} :
    entries v directory = .error f ↔
      ∃ cause, v.names directory = .error cause ∧ f = .unreadable directory.text cause := by
  unfold entries
  cases v.names directory with
  | ok ns => simp
  | error cause => simp [eq_comm]

theorem cardEntries_eq_error_iff : cardEntries v root = .error f ↔ Unlisted v root classNames f := by
  have hentries : entries v (classDirectory root) = .error f ↔
      ∃ cause, v.names (classDirectory root) = .error cause ∧
        f = .unreadable (classDirectory root).text cause := entries_eq_error_iff
  rw [text_classDirectory] at hentries
  rw [cardEntries, Unlisted]
  show _ ↔ ∃ cause, v.names (classDirectory root) = .error cause ∧ _
  rw [← hentries]
  cases entries v (classDirectory root) with
  | ok es => simp [Except.map]
  | error g => simp [Except.map]

theorem entryBefore_cardEntry_iff {m n : Name} {i j : Nat} (hm : IsCardName m i)
    (hn : IsCardName n j) :
    EntryBefore (cardEntry root m) (cardEntry root n) ↔ CardBefore m n := by
  rw [EntryBefore, cardEntry, cardEntry, bytes_name_of_isCardName hm, bytes_name_of_isCardName hn]

/-- A job for each card fails where that of the first card does that has one that fails. -/
theorem outcome_eachCard_eq_error_iff {β : Type} {job : Entry → Job β}
    {Fails : Name → Fault → Prop}
    (hjob : ∀ card number, IsCardName card number → ∀ g,
      ((job (cardEntry root card)).outcome = .error g ↔ Fails card g)) :
    ((Job.ofExcept (cardEntries v root)).andThen (Job.each job)).outcome = .error f ↔
      Unlisted v root classNames f ∨ FirstCardFailure v root Fails f := by
  have hcards (es : List Entry) (hes : cardEntries v root = .ok es) :
      (Job.each job es).outcome = .error f ↔ FirstCardFailure v root Fails f := by
    obtain ⟨-, -, -, hpairwise⟩ := cardEntries_listed hes
    have hmem {e : Entry} := @mem_cardEntries_iff v root es hes e
    rw [Job.outcome_each_eq_error_iff,
      firstFailure_of_pairwise (fun _ _ => entryBefore_asymm) hpairwise]
    constructor
    · intro h
      obtain ⟨e, he, hfails, hbefore⟩ := h
      obtain ⟨card, hcard, rfl⟩ := hmem.mp he
      obtain ⟨number, hnumber⟩ := hcard.2
      refine ⟨card, hcard, (hjob card number hnumber f).mp hfails, ?_⟩
      intro other hother horder g hg
      obtain ⟨i, hi⟩ := hother.2
      exact hbefore (cardEntry root other) (hmem.mpr ⟨other, hother, rfl⟩)
        ((entryBefore_cardEntry_iff hi hnumber).mpr horder) g ((hjob other i hi g).mpr hg)
    · intro h
      obtain ⟨card, hcard, hfails, hbefore⟩ := h
      obtain ⟨number, hnumber⟩ := hcard.2
      refine ⟨cardEntry root card, hmem.mpr ⟨card, hcard, rfl⟩,
        (hjob card number hnumber f).mpr hfails, ?_⟩
      intro e he horder g hg
      obtain ⟨other, hother, rfl⟩ := hmem.mp he
      obtain ⟨i, hi⟩ := hother.2
      exact hbefore other hother ((entryBefore_cardEntry_iff hi hnumber).mp horder) g
        ((hjob other i hi g).mp hg)
  rw [Job.outcome_andThen_eq_error_iff (fun g => cardEntries_eq_error_iff) hcards]
  constructor
  · intro h
    exact h.imp_right And.right
  · intro h
    refine h.imp_right fun hfirst => ⟨?_, hfirst⟩
    -- a directory with a card in it has been listed
    intro g hg
    obtain ⟨card, ⟨⟨ns, hns, -⟩, -⟩, -⟩ := hfirst
    obtain ⟨cause, hcause, -⟩ := hg
    rw [hns] at hcause
    cases hcause

/-! ### A card -/

section Card

variable {card : Name} {number : Nat}

theorem linkName?_eq_some_iff {n : Name} :
    linkName? v (below root (deviceFile card "driver")) = some n ↔ LinkNames v root card n := by
  unfold linkName? LinkNames
  cases v.target (below root (deviceFile card "driver")) with
  | ok target => simp [Path.fileName?_eq_some_iff]
  | error cause => simp

theorem linkName?_eq_none_iff :
    linkName? v (below root (deviceFile card "driver")) = none ↔
      ¬ ∃ n, LinkNames v root card n := by
  simp only [Option.eq_none_iff_forall_ne_some, ne_eq, linkName?_eq_some_iff, not_exists]

theorem malformedAt_iff (hcard : IsCardName card number) {file field : String} :
    (∃ text, MalformedAt v (below root (deviceFile card file)) text ∧
        f = .malformed (below root (deviceFile card file)).text field text) ↔
      Malformed v root (deviceFile card file) field f := by
  rw [text_deviceFile hcard, Malformed]
  constructor
  · intro h
    obtain ⟨text, ⟨⟨s, hs, htext⟩, hblank, hnumber⟩, rfl⟩ := h
    exact ⟨s, text, hs, Text.trims_toList_iff.mpr htext, hblank, hnumber, rfl⟩
  · intro h
    obtain ⟨s, text, hs, htext, hblank, hnumber, rfl⟩ := h
    exact ⟨text, ⟨⟨s, hs, Text.trims_toList_iff.mp htext⟩, hblank, hnumber⟩, rfl⟩

theorem listedDriver_card_eq_error_iff (hcard : IsCardName card number) :
    listedDriver v (deviceOf (cardEntry root card).path) = .error f ↔
      Unreadable v root (deviceFile card "uevent") f := by
  rw [listedDriver_eq_error_iff, deviceFile_cardEntry, text_deviceFile hcard, Unreadable]

theorem driver_card_eq_error_iff (hcard : IsCardName card number) :
    driver v (deviceOf (cardEntry root card).path) = .error f ↔
      FirstFailure (CardStep.Fails v root card) [.link, .uevent] f := by
  have hlink (g : Fault) : linkedDriver v (deviceOf (cardEntry root card).path) = .error g ↔
      CardStep.Fails v root card .link g := by
    rw [linkedDriver_eq_error_iff, deviceFile_cardEntry, text_deviceFile hcard, CardStep.Fails]
  rw [driver_eq_error_iff, listedDriver_card_eq_error_iff hcard, deviceFile_cardEntry,
    linkName?_eq_none_iff, firstFailure_cons, firstFailure_singleton]
  simp only [ne_eq, hlink]
  rfl

theorem requiredNumber_card_eq_error_iff (hcard : IsCardName card number) :
    requiredNumber v ((deviceOf (cardEntry root card).path).join (Path.ofString "enable"))
        "enable" = .error f ↔
      FirstFailure (CardStep.Fails v root card) [.enable] f := by
  rw [firstFailure_singleton, requiredNumber_eq_error_iff, deviceFile_cardEntry,
    malformedAt_iff hcard, text_deviceFile hcard]
  rfl

theorem outcome_connectorAt_eq_error_iff {shown : String} {e : Entry} :
    (connectorAt v shown e).outcome = .error f ↔
      ∃ cause, v.isDirectory e.path = .error cause ∧ f = .unreadable e.path.text cause := by
  unfold connectorAt
  split
  · rename_i h
    rw [Job.outcome_andThen, outcome_connectorOf, h]
    simp [Except.bind]
  · rename_i h
    simp [h]
  · rename_i h
    simp [h, eq_comm]

theorem outcome_connectorsOf_eq_error_iff (hcard : IsCardName card number) :
    (connectorsOf v (cardEntry root card)).outcome = .error f ↔
      FirstFailure (CardStep.Fails v root card) [.listing, .connectors] f := by
  have hlisting (g : Fault) :
      (Job.ofExcept (entries v (cardEntry root card).path)).outcome = .error g ↔
        CardStep.Fails v root card .listing g := by
    rw [Job.outcome_ofExcept, entries_eq_error_iff, path_cardEntry, text_card]
    rfl
  have hconnectors (es : List Entry)
      (hes : (Job.ofExcept (entries v (cardEntry root card).path)).outcome = .ok es) :
      ((Job.each (connectorAt v (cardEntry root card).name)
          (es.filter (belongsTo (cardEntry root card).name))).andThen fun connectors =>
            Job.done ((connectors.filterMap id).mergeSort connectorNotAfter)).outcome = .error f ↔
        CardStep.Fails v root card .connectors f := by
    obtain ⟨ns, hns, rfl⟩ := entries_eq_ok_iff.mp hes
    rw [path_cardEntry] at hns
    rw [Job.outcome_andThen_done_eq_error, Job.outcome_each_eq_error_iff, firstFailure_filter,
      firstFailure_map]
    have hunseen (n : Name) (g : Fault) :
        (belongsTo (cardEntry root card).name (Entry.ofName (cardEntry root card).path n) = true ∧
            (connectorAt v (cardEntry root card).name
              (Entry.ofName (cardEntry root card).path n)).outcome = .error g) ↔
          UnseenConnector v root card n g := by
      have hpath : (Entry.ofName (cardEntry root card).path n).path =
          below root (cardNames card ++ [n]) := rfl
      rw [outcome_connectorAt_eq_error_iff, hpath, text_below_card hcard, UnseenConnector]
      exact and_congr_left fun _ => belongsTo_iff hcard
    rw [firstFailure_congr fun n _ g => hunseen n g]
    constructor
    · intro h
      exact ⟨ns, hns, h⟩
    · intro h
      obtain ⟨ns', hns', h⟩ := h
      obtain rfl : ns = ns' := Except.ok.inj (hns.symm.trans hns')
      exact h
  rw [firstFailure_cons, firstFailure_singleton]
  simp only [connectorsOf, Job.bind_eq_andThen, Job.pure_eq_done]
  exact Job.outcome_andThen_eq_error_iff hlisting hconnectors

/-- A card cannot be read exactly when one of its steps fails, and fails with the first of them. -/
theorem outcome_cardOf_eq_error_iff (hcard : IsCardName card number) :
    (cardOf v (cardEntry root card)).outcome = .error f ↔
      FirstFailure (CardStep.Fails v root card) CardStep.order f := by
  have horder : CardStep.order =
      [.link, .uevent] ++ ([.enable] ++ [.listing, .connectors]) := rfl
  rw [horder, firstFailure_append, firstFailure_append]
  simp only [cardOf, Job.bind_eq_andThen, Job.pure_eq_done]
  apply Job.outcome_andThen_eq_error_iff fun g => driver_card_eq_error_iff hcard
  intro driver _
  apply Job.outcome_andThen_eq_error_iff fun g => requiredNumber_card_eq_error_iff hcard
  intro enable _
  rw [Job.outcome_andThen_done_eq_error, outcome_connectorsOf_eq_error_iff hcard]

/-- A record's number is read, and the others after it. -/
theorem outcome_optionalNumber_andThen_eq_error_iff {β : Type} (hcard : IsCardName card number)
    {next : UInt64 → Job β} {file : String} {files : List String}
    (hnext : ∀ n, (next n).outcome = .error f ↔
      FirstFailure (fun file => Malformed v root (deviceFile card file) file) files f) :
    ((optionalNumber v (deviceOf (cardEntry root card).path) file).andThen next).outcome = .error f ↔
      FirstFailure (fun file => Malformed v root (deviceFile card file) file) (file :: files) f := by
  rw [firstFailure_cons]
  apply Job.outcome_andThen_eq_error_iff
  · intro g
    rw [outcome_optionalNumber, number_attributeAt_eq_error_iff, deviceFile_cardEntry,
      malformedAt_iff hcard]
  · exact fun n _ => hnext n

/-- The numbers of a record are read one after the other, and its texts never fail. -/
theorem outcome_deviceStats_eq_error_iff (hcard : IsCardName card number) {shown : String} :
    (deviceStats v shown (deviceOf (cardEntry root card).path)).outcome = .error f ↔
      FirstFailure (fun file => Malformed v root (deviceFile card file) file) numberFiles f := by
  simp only [deviceStats, Job.bind_eq_andThen, Job.pure_eq_done, numberFiles]
  iterate 7
    apply outcome_optionalNumber_andThen_eq_error_iff hcard
    intro n
  rw [Job.outcome_andThen_of_ok (outcome_optionalText v _ _),
    Job.outcome_andThen_of_ok (outcome_optionalText v _ _),
    Job.outcome_andThen_of_ok (outcome_optionalText v _ _)]
  exact iff_of_false (by simp) not_firstFailure_nil

/-- A record cannot be read exactly when one of its steps fails, and fails with the first of
them. -/
theorem outcome_statsOf_eq_error_iff (hcard : IsCardName card number) :
    (statsOf v (cardEntry root card)).outcome = .error f ↔
      FirstFailure (StatsStep.Fails v root card) StatsStep.order f := by
  rw [StatsStep.order, firstFailure_cons, firstFailure_map]
  simp only [statsOf, Job.bind_eq_andThen]
  apply Job.outcome_andThen_eq_error_iff fun g => listedDriver_card_eq_error_iff hcard
  intro listed hlisted
  rw [listedDriver_eq_ok hlisted, deviceOf_cardEntry]
  have hnames : ueventDriver? v (below root (deviceNames card)) = some "amdgpu" ↔
      UeventNames v root card "amdgpu" := ueventDriver?_eq_some_iff
  by_cases hamdgpu : UeventNames v root card "amdgpu"
  · rw [if_pos (hnames.mpr hamdgpu), ← deviceOf_cardEntry, outcome_deviceStats_eq_error_iff hcard]
    exact firstFailure_congr fun file _ g => (and_iff_right hamdgpu).symm
  · rw [if_neg (hnames.not.mpr hamdgpu)]
    refine iff_of_false (by simp) ?_
    intro h
    obtain ⟨file, -, hnamed, -⟩ := h.exists_mem
    exact hamdgpu hnamed

end Card

/-! ### All cards -/

/-- **The cards of a tree cannot be read exactly when a step fails.** The fault is that of the
first failing step of the first failing card, or of listing the directory of cards. -/
theorem cards_fail_iff (v : View) (root : Path) (f : Fault) :
    (allCards v root).outcome = .error f ↔
      Unlisted v root classNames f ∨
        FirstCardFailure v root
          (fun card => FirstFailure (CardStep.Fails v root card) CardStep.order) f :=
  outcome_eachCard_eq_error_iff fun _ _ hcard _ => outcome_cardOf_eq_error_iff hcard

theorem allStats_eq_error_iff :
    (allStats v root).outcome = .error f ↔
      Unlisted v root classNames f ∨
        FirstCardFailure v root
          (fun card => FirstFailure (StatsStep.Fails v root card) StatsStep.order) f :=
  outcome_eachCard_eq_error_iff fun _ _ hcard _ => outcome_statsOf_eq_error_iff hcard

/-- Where the cards can be read, a record's `uevent` can be unreadable only behind a link. -/
theorem linkNames_of_readable {card : Name} {number : Nat} (hnumber : IsCardName card number)
    {c : Card} (hread : (cardOf v (cardEntry root card)).outcome = .ok c)
    (hfails : StatsStep.uevent.Fails v root card f) : ∃ n, LinkNames v root card n := by
  have hsteps (step : CardStep) (hstep : step ∈ CardStep.order) (g : Fault) :
      ¬ step.Fails v root card g := by
    intro hg
    obtain ⟨g', hfirst⟩ := exists_firstFailure_iff.mpr ⟨step, hstep, g, hg⟩
    rw [← outcome_cardOf_eq_error_iff hnumber, hread] at hfirst
    cases hfirst
  by_contra hnone
  have huevent : CardStep.uevent.Fails v root card f := ⟨hnone, hfails⟩
  exact hsteps .uevent (by simp [CardStep.order]) f huevent

/-- **The records of a tree cannot be read exactly when a step fails.** The fault is that of the
first failing step of the first failing card, or of listing the directory of cards. Where the
cards can be read, only a `uevent` that no card needed, or a number of an amdgpu card, is left to
fail. -/
theorem stats_fail_iff (v : View) (root : Path) (f : Fault) :
    ((allStats v root).outcome = .error f ↔
      Unlisted v root classNames f ∨
        FirstCardFailure v root
          (fun card => FirstFailure (StatsStep.Fails v root card) StatsStep.order) f) ∧
      ∀ cards, (allCards v root).outcome = .ok cards → (allStats v root).outcome = .error f →
        ∃ card, IsCard v root card ∧
          ((∃ n, LinkNames v root card n) ∧ StatsStep.uevent.Fails v root card f ∨
            ∃ file ∈ numberFiles, (StatsStep.number file).Fails v root card f) := by
  refine ⟨allStats_eq_error_iff, ?_⟩
  intro cards hcards hstats
  obtain hunlisted | ⟨card, hcard, hfirst, -⟩ := allStats_eq_error_iff.mp hstats
  · -- both readings list the same directory
    obtain ⟨es, hes, -⟩ := outcome_allCards_eq_ok.mp hcards
    rw [cardEntries_eq_error_iff.mpr hunlisted] at hes
    cases hes
  · refine ⟨card, hcard, ?_⟩
    obtain ⟨number, hnumber⟩ := hcard.2
    obtain ⟨c, -, hread⟩ := exists_outcome_of_eachCard hcards hcard
    obtain ⟨step, hstep, hfails⟩ := hfirst.exists_mem
    rw [StatsStep.order, List.mem_cons] at hstep
    obtain rfl | hstep := hstep
    · exact .inl ⟨linkNames_of_readable hnumber hread hfails, hfails⟩
    · obtain ⟨file, hfile, rfl⟩ := List.mem_map.mp hstep
      exact .inr ⟨file, hfile, hfails⟩

end CardTelemetry.Sysfs
