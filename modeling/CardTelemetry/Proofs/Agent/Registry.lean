import CardTelemetry.Agent.Registry
import CardTelemetry.Proofs.Job.Outcome
import CardTelemetry.Proofs.Text.Utf8

/-!
# What the registry builds

The collectors that are built are those of the wanted makers, in the registry's order, and
either all of them are built or none. As the registry stands, a session has the card collector
over the tree at the root that is set, or no collector. A name that is not registered comes before
all else, and a name to be disabled before the root, which is then not looked at. Roots are those
that settings can hold, which are texts.
-/

namespace CardTelemetry.Registry

open Files (Path View)

/-- There is a collector of a name. -/
def IsRegistered (name : String) : Prop := ∃ m ∈ makers, m.name = name

/-- The first name that no collector has among those in the settings, where the names to be enabled
come before those to be disabled. -/
def FirstUnknown (settings : Settings) (name : String) : Prop :=
  ∃ before after, settings.enable ++ settings.disable = before ++ name :: after ∧
    (∀ n ∈ before, IsRegistered n) ∧ ¬ IsRegistered name

/-- Two settings have the same names to be enabled and the same to be disabled, however often and
in whatever order. -/
structure SameNames (settings other : Settings) : Prop where
  enable : ∀ n, n ∈ other.enable ↔ n ∈ settings.enable
  disable : ∀ n, n ∈ other.disable ↔ n ∈ settings.disable

variable {settings other : Settings} {v : View}

theorem outcome_assembleFrom_eq_ok {ms : List Maker} {gs : List Gatherer} :
    (assembleFrom settings v ms).outcome = .ok gs ↔
      List.Forall₂ (fun m g => m.make settings v = .ok g) (ms.filter (wants settings)) gs := by
  induction ms generalizing gs with
  | nil => cases gs <;> simp [assembleFrom]
  | cons m rest ih =>
    by_cases hm : wants settings m = true
    · have hnote (g : Gatherer) : ((Job.note (.enabled m.name)).andThen fun _ =>
          (assembleFrom settings v rest).andThen fun gs => Job.done (g :: gs)).outcome = .ok gs ↔
            ∃ gs', (assembleFrom settings v rest).outcome = .ok gs' ∧ g :: gs' = gs := by
        rw [Job.outcome_andThen_of_ok (Job.outcome_note _), Job.outcome_andThen_eq_ok]
        simp
      rw [assembleFrom, if_pos hm, Job.outcome_andThen_eq_ok, List.filter_cons_of_pos hm]
      simp only [hnote, ih, Job.outcome_ofExcept]
      constructor
      · rintro ⟨g, hg, gs', hgs, rfl⟩
        exact .cons hg hgs
      · intro h
        cases h with
        | cons hg hgs => exact ⟨_, hg, _, hgs, rfl⟩
    · rw [assembleFrom, if_neg hm, Job.outcome_andThen_of_ok (Job.outcome_note _), ih,
        List.filter_cons_of_neg hm]

theorem outcome_assemble_eq_ok {gs : List Gatherer} :
    (assemble settings v).outcome = .ok gs ↔
      unknown? settings = none ∧
        List.Forall₂ (fun m g => m.make settings v = .ok g)
          (makers.filter (wants settings)) gs := by
  unfold assemble
  cases h : unknown? settings with
  | some name => simp
  | none => simp [outcome_assembleFrom_eq_ok]

theorem openCards_eq_ok {root : Path} {g : Gatherer} (h : openCards v root = .ok g) :
    g = .ofSource (Sysfs.source v root) := by
  unfold openCards at h
  cases hroot : Sysfs.checkRoot v root with
  | error f =>
    rw [hroot] at h
    cases h
  | ok _ =>
    rw [hroot] at h
    cases h
    rfl

/-- Whatever is built is the card collector, once. -/
theorem assembled_eq {gs : List Gatherer} (h : (assemble settings v).outcome = .ok gs) :
    gs = [] ∨ gs = [.ofSource (Sysfs.source v (Path.ofString settings.sysPath))] := by
  obtain ⟨-, hbuilt⟩ := outcome_assemble_eq_ok.mp h
  rw [makers, List.filter_cons] at hbuilt
  split at hbuilt
  · right
    cases hbuilt with
    | cons hg hnone =>
      cases hnone
      rw [openCards_eq_ok hg]
  · left
    cases hbuilt
    rfl

/-! ### Names -/

theorem isKnown_iff {name : String} : isKnown name = true ↔ IsRegistered name := by
  simp [isKnown, IsRegistered]

theorem unknown?_eq_some_iff {name : String} :
    unknown? settings = some name ↔ FirstUnknown settings name := by
  rw [unknown?, List.find?_eq_some_iff_append, FirstUnknown]
  simp only [Bool.not_eq_true', Bool.not_not, isKnown_iff, ← Bool.not_eq_true]
  constructor
  · intro h
    obtain ⟨hname, before, after, heq, hbefore⟩ := h
    exact ⟨before, after, heq, hbefore, hname⟩
  · intro h
    obtain ⟨before, after, heq, hbefore, hname⟩ := h
    exact ⟨hname, before, after, heq, hbefore⟩

theorem unknown?_eq_none_iff :
    unknown? settings = none ↔ ¬ ∃ name, FirstUnknown settings name := by
  simp only [Option.eq_none_iff_forall_ne_some, ne_eq, unknown?_eq_some_iff, not_exists]

theorem isRegistered_of_mem (h : unknown? settings = none) {n : String}
    (hn : n ∈ settings.enable ++ settings.disable) : IsRegistered n := by
  have hknown := List.find?_eq_none.mp h n hn
  rw [← isKnown_iff]
  simpa using hknown

namespace SameNames

theorem unknown?_eq_none (hsame : SameNames settings other) (h : unknown? settings = none) :
    unknown? other = none := by
  refine List.find?_eq_none.mpr fun n hn => ?_
  have hmem : n ∈ settings.enable ++ settings.disable := by
    rwa [List.mem_append, ← hsame.enable, ← hsame.disable, ← List.mem_append]
  have hknown := isKnown_iff.mpr (isRegistered_of_mem h hmem)
  simp [hknown]

theorem wants_eq (hsame : SameNames settings other) (m : Maker) :
    wants other m = wants settings m := by
  have henable : other.enable.contains m.name = settings.enable.contains m.name := by
    rw [Bool.eq_iff_iff, List.contains_iff_mem, List.contains_iff_mem, hsame.enable]
  have hdisable : other.disable.contains m.name = settings.disable.contains m.name := by
    rw [Bool.eq_iff_iff, List.contains_iff_mem, List.contains_iff_mem, hsame.disable]
  rw [wants, wants, henable, hdisable]

end SameNames

/-! ### Makers -/

/-- Makers that are wanted alike and make alike build alike. -/
theorem assembleFrom_congr {ms : List Maker} (hwants : ∀ m ∈ ms, wants other m = wants settings m)
    (hmake : ∀ m ∈ ms, m.make other v = m.make settings v) :
    assembleFrom other v ms = assembleFrom settings v ms := by
  induction ms with
  | nil => rfl
  | cons m rest ih =>
    rw [List.forall_mem_cons] at hwants hmake
    rw [assembleFrom, assembleFrom, hwants.1, hmake.1, ih hwants.2 hmake.2]

/-- Only the root and the names count, where all names are known. -/
theorem assemble_congr (hknown : unknown? settings = none) (hsame : SameNames settings other)
    (hroot : other.sysPath = settings.sysPath) : assemble other v = assemble settings v := by
  simp only [assemble, hknown, hsame.unknown?_eq_none hknown]
  apply assembleFrom_congr
  · exact fun m _ => hsame.wants_eq m
  · intro m hm
    rw [makers, List.mem_singleton] at hm
    subst hm
    show openCards v (Path.ofString other.sysPath) = openCards v (Path.ofString settings.sysPath)
    rw [hroot]

/-- A collector has the name of its maker. -/
theorem name_of_make {m : Maker} (hm : m ∈ makers) {g : Gatherer} (hg : m.make settings v = .ok g) :
    g.name = m.name := by
  rw [makers, List.mem_singleton] at hm
  subst hm
  rw [openCards_eq_ok hg]
  rfl

/-- The names of what is built are names of makers, each at most once. -/
theorem names_sublist {gs : List Gatherer} (h : (assemble settings v).outcome = .ok gs) :
    (gs.map Gatherer.name).Sublist (makers.map Maker.name) := by
  obtain ⟨-, hbuilt⟩ := outcome_assemble_eq_ok.mp h
  have hmap : gs.map Gatherer.name = (makers.filter (wants settings)).map Maker.name := by
    have hnamed : List.Forall₂ (fun m g => m ∈ makers ∧ m.make settings v = .ok g)
        (makers.filter (wants settings)) gs :=
      (List.forall₂_and_left _ _).mpr ⟨fun m hm => List.mem_of_mem_filter hm, hbuilt⟩
    exact Job.map_eq_of_forall₂ (fun m g hg => name_of_make hg.1 hg.2) hnamed
  rw [hmap]
  exact List.filter_sublist.map _

theorem nodup_makers : (makers.map Maker.name).Nodup := List.pairwise_singleton _ Collector.name

/-- The card collector is wanted unless it is disabled; it need not be enabled. -/
theorem assembleFrom_makers :
    assembleFrom settings v makers =
      if "drm" ∈ settings.disable then ⟨[.noted (.disabled "drm")], .ok []⟩
      else (Job.ofExcept (openCards v (Path.ofString settings.sysPath))).andThen fun g =>
        ⟨[.noted (.enabled "drm")], .ok [g]⟩ := by
  have hwants : wants settings
      ⟨Collector.name, true, fun settings v => openCards v (Path.ofString settings.sysPath)⟩ = true ↔
        "drm" ∉ settings.disable := by
    simp [wants, Collector.name]
  rw [makers, assembleFrom]
  by_cases hdisable : "drm" ∈ settings.disable
  · rw [if_neg (mt hwants.mp (not_not.mpr hdisable)), if_pos hdisable]
    rfl
  · rw [if_pos (hwants.mpr hdisable), if_neg hdisable]
    rfl

/-! ### The root -/

theorem openCards_eq (root : Path) :
    openCards v root =
      match v.isDirectory root with
      | .ok true => .ok (.ofSource (Sysfs.source v root))
      | .ok false => .error (.notDirectory root.text)
      | .error cause => .error (.unopened root.text cause) := by
  unfold openCards Sysfs.checkRoot
  cases v.isDirectory root with
  | ok isDirectory => cases isDirectory <;> rfl
  | error cause => rfl

/-- **What is built is decided by the names first and the root last.** The first unknown name is
refused, whatever the root is; a disabled collector is not built, enabled or not, and the root is
not looked at; otherwise there is the one collector, or the fault of its root. -/
theorem built_as_named (settings : Settings) (v : View) :
    (∀ name, FirstUnknown settings name → assemble settings v = .fail (.unknownCollector name)) ∧
      ((¬ ∃ name, FirstUnknown settings name) →
        ("drm" ∈ settings.disable →
          assemble settings v = ⟨[.noted (.disabled "drm")], .ok []⟩) ∧
        ("drm" ∉ settings.disable →
          (v.isDirectory (Path.ofString settings.sysPath) = .ok true →
            assemble settings v = ⟨[.noted (.enabled "drm")],
              .ok [.ofSource (Sysfs.source v (Path.ofString settings.sysPath))]⟩) ∧
          (v.isDirectory (Path.ofString settings.sysPath) = .ok false →
            assemble settings v = .fail (.notDirectory settings.sysPath)) ∧
          ∀ cause, v.isDirectory (Path.ofString settings.sysPath) = .error cause →
            assemble settings v = .fail (.unopened settings.sysPath cause)) ∧
        ∀ other, SameNames settings other → other.sysPath = settings.sysPath →
          assemble other v = assemble settings v) ∧
      ∀ gs, (assemble settings v).outcome = .ok gs →
        (gs.map Gatherer.name).Nodup ∧ ∀ g ∈ gs, IsRegistered g.name := by
  refine ⟨?_, ?_, ?_⟩
  · intro name hname
    rw [assemble, unknown?_eq_some_iff.mpr hname]
  · intro hnone
    have hknown := unknown?_eq_none_iff.mpr hnone
    have hbuilt : assemble settings v = assembleFrom settings v makers := by rw [assemble, hknown]
    have htext : (Path.ofString settings.sysPath).text = settings.sysPath :=
      Text.Utf8.lossy_bytes settings.sysPath
    refine ⟨?_, ?_, fun other => assemble_congr hknown⟩
    · intro hdisable
      rw [hbuilt, assembleFrom_makers, if_pos hdisable]
    · intro hdisable
      rw [hbuilt, assembleFrom_makers, if_neg hdisable, openCards_eq, htext]
      refine ⟨?_, ?_, ?_⟩
      · intro hroot
        rw [hroot]
        rfl
      · intro hroot
        rw [hroot]
        rfl
      · intro cause hroot
        rw [hroot]
        rfl
  · intro gs hgs
    have hsublist := names_sublist hgs
    refine ⟨nodup_makers.sublist hsublist, ?_⟩
    intro g hg
    obtain ⟨m, hm, heq⟩ := List.mem_map.mp (hsublist.subset (List.mem_map_of_mem hg))
    exact ⟨m, hm, heq⟩

/-- An empty name is no collector's, and comes before the names to be disabled. -/
example :
    unknown? { Settings.default with enable := ["drm", ""], disable := ["drm", "gpu"] } = some "" := by
  decide

end CardTelemetry.Registry
