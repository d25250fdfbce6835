import CardTelemetry.Proofs.Settings.Spelling

/-!
# Where values come from

A setting has its value from its own texts alone: from those of its option, else from its variable,
else from the default. What is said of other settings and in which order has no part in it, as long
as every text is taken.
-/

namespace CardTelemetry

namespace Setting

variable {s : Setting} {o o' : Option s.Value} {texts texts' : List String}

theorem takes_append :
    s.Takes o (texts ++ texts') o' ↔ ∃ o₁, s.Takes o texts o₁ ∧ s.Takes o₁ texts' o' := by
  induction texts generalizing o with
  | nil => simp [Takes]
  | cons text texts ih =>
    simp only [List.cons_append, Takes, ih]
    constructor
    · rintro ⟨hfree, v, hv, o₁, h, h'⟩
      exact ⟨o₁, ⟨hfree, v, hv, h⟩, h'⟩
    · rintro ⟨o₁, ⟨hfree, v, hv, h⟩, h'⟩
      exact ⟨hfree, v, hv, o₁, h, h'⟩

theorem isSome_of_takes {v : s.Value} (h : s.Takes (some v) texts o) : o.isSome = true := by
  induction texts generalizing v with
  | nil =>
    obtain rfl := h
    rfl
  | cons text texts ih =>
    obtain ⟨-, v', -, h⟩ := h
    exact ih h

/-- There is a value exactly where there is a text. -/
theorem eq_none_iff_of_takes (h : s.Takes none texts o) : o = none ↔ texts = [] := by
  cases texts with
  | nil => exact iff_of_true h rfl
  | cons text texts =>
    obtain ⟨-, v, -, h⟩ := h
    have hsome := isSome_of_takes h
    refine iff_of_false ?_ (List.cons_ne_nil _ _)
    rintro rfl
    cases hsome

theorem takes_unique (h : s.Takes o texts o') {o'' : Option s.Value}
    (h' : s.Takes o texts o'') : o' = o'' := by
  induction texts generalizing o with
  | nil => exact h.trans h'.symm
  | cons text texts ih =>
    obtain ⟨-, v, hv, h⟩ := h
    obtain ⟨-, v', hv', h'⟩ := h'
    obtain rfl := hv.unique hv'
    exact ih h h'

theorem takes_singleton {text : String} :
    s.Takes none [text] o ↔ ∃ v, s.Writes text v ∧ o = some v := by
  simp [Takes]

end Setting

namespace Given

/-- What is given, put together from what is given for each setting. -/
def ofGet (f : (s : Setting) → Option s.Value) : Given where
  agentId := f .agentId
  sysPath := f .sysPath
  collectInterval := f .collectInterval
  collectTimeout := f .collectTimeout
  enable := f .enable
  disable := f .disable
  format := f .format
  jsonLogs := f .jsonLogs
  once := f .once

@[simp] theorem get_ofGet (f : (s : Setting) → Option s.Value) (s : Setting) :
    (ofGet f).get s = f s := by
  cases s <;> rfl

end Given

theorem Setting.mem_all (s : Setting) : s ∈ Setting.all := by
  cases s <;> decide

theorem Setting.nodup_all : Setting.all.Nodup := by
  decide

namespace CommandLine

variable {env : Environment} {g : Given} {os : List Occurrence} {args : List String} {c : Settings}

/-- The texts of variables whose settings have no value yet. -/
def fromVariables (env : Environment) (g : Given) (ss : List Setting) : List Occurrence :=
  ss.filterMap fun s =>
    (if g.has s then none else variableValue env s).map fun text => (s, text)

/-- Variables are taken as if their texts had stood on the command line. -/
theorem layer_eq_occurAll {ss : List Setting} (h : ss.Nodup) (g : Given) :
    layer env g ss = g.occurAll (fromVariables env g ss) := by
  induction ss generalizing g with
  | nil => rfl
  | cons s ss ih =>
    obtain ⟨hnew, hss⟩ := List.nodup_cons.mp h
    rw [layer, fromVariables]
    split_ifs with hhas
    · rw [List.filterMap_cons_none (by simp [hhas]), ih hss]
      rfl
    · cases htext : variableValue env s with
      | none =>
        rw [List.filterMap_cons_none (by simp [htext]), ih hss]
        rfl
      | some text =>
        have hoccur : g.occur s text = g.take s text := by
          simp [Given.occur, hhas]
        rw [List.filterMap_cons_some (b := (s, text)) (by simp [hhas, htext]), Given.occurAll]
        rw [hoccur]
        refine bind_congr_ok fun g' htake => ?_
        obtain ⟨-, -, -, hother⟩ := Given.take_eq_ok_iff.mp htake
        rw [ih hss]
        congr 1
        refine List.filterMap_congr fun s' hs' => ?_
        have hne : s' ≠ s := fun heq => hnew (heq ▸ hs')
        rw [Given.has_eq, Given.has_eq, hother s' hne]

theorem textsOf_fromVariables (env : Environment) (g : Given) (s : Setting) :
    textsOf s (fromVariables env g Setting.all) =
      (if g.has s then none else variableValue env s).toList := by
  rw [fromVariables, textsOf_filterMap Setting.nodup_all, if_pos (Setting.mem_all s)]

/-- What is read of options that are spelled so. -/
theorem read_of_spelled (h : Spelled os args) (env : Environment) :
    Settings.read args env =
      (((Given.nothing.occurAll os).bind fun g =>
        g.occurAll (fromVariables env g Setting.all)).map Given.settings).mapError
          Halt.complaint := by
  have hscan : (scan .start args).map Progress.given =
      (Given.nothing.occurAll os).mapError Halt.complaint := by
    rw [scan_of_spelled h (Progress.not_awaits rfl)]
    exact Progress.map_given_occurAll os .start
  have hread : Settings.read args env = ((scan .start args).map Progress.given).bind fun g =>
      ((layer env g Setting.all).map Given.settings).mapError Halt.complaint := by
    rw [Settings.read]
    cases scan .start args with
    | error halt => rfl
    | ok p =>
      show _ = ((layer env p.given Setting.all).map Given.settings).mapError Halt.complaint
      simp only [Except.bind]
      cases layer env p.given Setting.all <;> rfl
  rw [hread, hscan]
  cases Given.nothing.occurAll os with
  | error c => rfl
  | ok g =>
    show ((layer env g Setting.all).map Given.settings).mapError Halt.complaint = _
    rw [layer_eq_occurAll Setting.nodup_all]
    rfl

/-- The texts that a setting has its value from. -/
def sources (env : Environment) (os : List Occurrence) (s : Setting) : List String :=
  if textsOf s os = [] then (variableValue env s).toList else textsOf s os

theorem sources_of_none {s : Setting} (h : variableValue env s = none) :
    sources env os s = textsOf s os := by
  rw [sources, h]
  split_ifs with htexts
  · exact htexts.symm
  · rfl

/-- Settings are read exactly where each of them is what its own texts lead to, or the default. -/
theorem read_eq_ok_iff (h : Spelled os args) :
    Settings.read args env = .ok c ↔
      ∀ s : Setting, ∃ o, s.Takes none (sources env os s) o ∧
        c.value? s = o.or (Settings.default.value? s) := by
  have hok {r : Except Complaint Given} :
      (r.map Given.settings).mapError Halt.complaint = .ok c ↔ ∃ g, r = .ok g ∧ g.settings = c := by
    cases r <;> simp [Except.map, Except.mapError]
  rw [read_of_spelled h, hok]
  simp only [bind_eq_ok_iff, Given.occurAll_eq_ok_iff, Given.get_nothing, textsOf_fromVariables]
  constructor
  · rintro ⟨g', ⟨g, hg, hg'⟩, rfl⟩ s
    refine ⟨g'.get s, ?_, g'.value?_settings s⟩
    have hnone := Setting.eq_none_iff_of_takes (hg s)
    specialize hg' s
    rw [sources]
    split_ifs with htexts
    · rw [hnone.mpr htexts] at hg'
      rwa [if_neg (by simp [Given.has_eq, hnone.mpr htexts])] at hg'
    · have hhas : g.has s = true := by
        rw [Given.has_eq, Option.isSome_iff_ne_none]
        exact fun heq => htexts (hnone.mp heq)
      rw [if_pos hhas] at hg'
      have heq : g'.get s = g.get s := hg'
      rw [heq]
      exact hg s
  · intro h
    choose o htakes hvalue using h
    refine ⟨.ofGet o, ⟨.ofGet fun s => if textsOf s os = [] then none else o s, ?_, ?_⟩, ?_⟩
    · intro s
      rw [Given.get_ofGet]
      have hs := htakes s
      rw [sources] at hs
      split_ifs at hs ⊢ with htexts
      · rw [htexts]
        rfl
      · exact hs
    · intro s
      have hs := htakes s
      have hnone := Setting.eq_none_iff_of_takes hs
      rw [sources] at hs hnone
      rw [Given.has_eq, Given.get_ofGet, Given.get_ofGet]
      split_ifs at hs hnone ⊢ with htexts hsome hsome
      · cases hsome
      · exact hs
      · rfl
      · rw [Option.not_isSome_iff_eq_none] at hsome
        exact absurd (hnone.mp hsome) htexts
    · apply Settings.ext_value
      intro s
      rw [Given.value?_settings, Given.get_ofGet, hvalue s]

/-- Settings are read exactly where every setting's texts are taken. -/
theorem exists_read_iff (h : Spelled os args) :
    (∃ c, Settings.read args env = .ok c) ↔
      ∀ s : Setting, ∃ o, s.Takes none (sources env os s) o := by
  simp only [read_eq_ok_iff h]
  constructor
  · rintro ⟨c, hc⟩ s
    obtain ⟨o, ho, -⟩ := hc s
    exact ⟨o, ho⟩
  · intro htakes
    choose o ho using htakes
    refine ⟨(Given.ofGet o).settings, fun s => ⟨o s, ho s, ?_⟩⟩
    rw [Given.value?_settings, Given.get_ofGet]

theorem exists_spelled_of_read (h : Settings.read args env = .ok c) : ∃ os, Spelled os args := by
  obtain ⟨p, hp, -⟩ := bind_eq_ok_iff.mp h
  exact (spelled_of_scan hp).1 (Progress.not_awaits rfl)

end CommandLine

end CardTelemetry
