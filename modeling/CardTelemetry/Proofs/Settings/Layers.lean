import CardTelemetry.Proofs.Settings.Sources
import Mathlib

/-!
# Options over variables over defaults

A variable counts only where the option of its setting does not occur in the arguments, whatever
its text. There it does what the option would do in front of the arguments, and what is wrong with
it is the only thing that can go wrong. Arguments that give no settings by themselves are left out.
-/

namespace CardTelemetry

open CommandLine (Spelled StandsAlone classify variableValue sources)

namespace Setting

/-- The option stands among the arguments, alone or with a text behind an equals sign. -/
def Occurs (s : Setting) (args : List String) : Prop :=
  ∃ a ∈ args, a = s.argument none ∨ (s.argument (some "")).toList <+: a.toList

instance (s : Setting) (args : List String) : Decidable (s.Occurs args) :=
  inferInstanceAs (Decidable (∃ a ∈ args, _))

/-- The text of a variable that counts; a switch that is off needs none. -/
def standIn? (env : Environment) (args : List String) (s : Setting) : Option String :=
  if s.Occurs args then none
  else (variableValue env s).filter fun text => !s.isSwitch || text = "true"

/-- The option that says what its variable says. -/
def standIn (env : Environment) (args : List String) (s : Setting) : List String :=
  (standIn? env args s).toList.map fun text => s.argument (if s.isSwitch then none else some text)

variable {s : Setting} {os : List Occurrence} {args : List String} {env : Environment}

/-! ### Occurrences among arguments -/

theorem occurs_iff : s.Occurs args ↔ ∃ a ∈ args, ∃ value, classify a = .option s value := by
  refine exists_congr fun a => and_congr_right fun _ => ?_
  simp only [CommandLine.classify_eq_option_iff]
  have hattached (text : String) : (s.argument (some text)).toList =
      (s.argument (some "")).toList ++ text.toList := by
    simp [CommandLine.toList_argument, CommandLine.behind]
  constructor
  · rintro (rfl | ⟨text, ha⟩)
    · exact ⟨none, rfl⟩
    · refine ⟨some (String.ofList text), ?_⟩
      rw [← String.toList_inj, hattached, String.toList_ofList, ha]
  · rintro ⟨_ | text, rfl⟩
    · exact .inl rfl
    · exact .inr ⟨text.toList, (hattached text).symm⟩

/-- The options that occur are those that have texts. -/
theorem occurs_iff_of_spelled (h : Spelled os args) : s.Occurs args ↔ textsOf s os ≠ [] := by
  have hargument (s : Setting) (value : Option String) :
      classify (s.argument value) = .option s value := CommandLine.classify_eq_option_iff.mpr rfl
  have hcons {s' : Setting} {text : String} {os : List Occurrence} {p : Prop}
      (ih : p ↔ textsOf s os ≠ []) :
      (s' = s ∨ p) ↔ textsOf s ((s', text) :: os) ≠ [] := by
    by_cases hs : s = s'
    · subst hs
      simp [textsOf_cons_self]
    · rw [textsOf_cons_of_ne hs, ← ih]
      exact or_iff_right (Ne.symm hs)
  rw [occurs_iff]
  induction h with
  | nil => simp [textsOf]
  | separator => simp [textsOf, CommandLine.classify_eq_separator_iff.mpr rfl]
  | switch _ _ ih => simpa [hargument] using hcons ih
  | attached _ _ ih => simpa [hargument] using hcons ih
  | apart _ halone _ ih =>
    simpa [hargument, CommandLine.classify_eq_word_iff.mpr halone] using hcons ih

theorem sources_of_occurs (h : Spelled os args) (hs : s.Occurs args) :
    sources env os s = textsOf s os :=
  if_neg ((occurs_iff_of_spelled h).mp hs)

theorem textsOf_of_not_occurs (h : Spelled os args) (hs : ¬ s.Occurs args) : textsOf s os = [] :=
  not_not.mp (mt (occurs_iff_of_spelled h).mpr hs)

theorem sources_of_not_occurs (h : Spelled os args) (hs : ¬ s.Occurs args) :
    sources env os s = (variableValue env s).toList :=
  if_pos (textsOf_of_not_occurs h hs)

/-! ### Options for variables -/

/-- The texts of the variables that count. -/
def standIns (env : Environment) (args : List String) (ss : List Setting) : List Occurrence :=
  ss.filterMap fun s => (standIn? env args s).map fun text => (s, text)

theorem eq_true_of_standIn? {text : String} (h : standIn? env args s = some text)
    (hs : s.isSwitch = true) : text = "true" := by
  obtain ⟨-, h⟩ := Option.ite_none_left_eq_some.mp h
  obtain ⟨-, h⟩ := Option.filter_eq_some_iff.mp h
  simpa [hs] using h

theorem spelled_standIns (h : Spelled os args) (ss : List Setting) :
    Spelled (standIns env args ss ++ os) (ss.flatMap (standIn env args) ++ args) := by
  induction ss with
  | nil => exact h
  | cons s ss ih =>
    rw [standIns, List.flatMap_cons, standIn]
    cases htext : standIn? env args s with
    | none =>
      rw [List.filterMap_cons_none (by simp [htext])]
      exact ih
    | some text =>
      rw [List.filterMap_cons_some (b := (s, text)) (by simp [htext])]
      cases hs : s.isSwitch with
      | true =>
        obtain rfl := eq_true_of_standIn? htext hs
        exact .switch hs ih
      | false => exact .attached hs ih

theorem textsOf_standIns {ss : List Setting} (h : ss.Perm Setting.all) (s : Setting) :
    textsOf s (standIns env args ss) = (standIn? env args s).toList := by
  rw [standIns, textsOf_filterMap (h.nodup_iff.mpr nodup_all), if_pos (h.mem_iff.mpr (mem_all s))]

/-- A switch that is said to be off is as it is by default. -/
theorem value_of_switch_off (hs : s.isSwitch = true) {text : String} {v : s.Value}
    (hv : s.Writes text v) (htext : text ≠ "true") : some v = Settings.default.value? s := by
  have hoff {on : Bool} (h : WritesSwitch text on) : some on = some false := by
    obtain ⟨rfl, -⟩ | ⟨-, rfl⟩ := h
    · exact absurd rfl htext
    · rfl
  cases s with
  | jsonLogs => exact hoff hv
  | once => exact hoff hv
  | _ => cases hs

end Setting

namespace Settings

open Setting (standIn standIn? standIns)

variable {args : List String} {c c' : Settings} {env : Environment}

/-- Each setting is that of its option, else that of its variable, else the default. -/
structure Layered (args : List String) (env : Environment) (c c' : Settings) : Prop where
  option : ∀ s, s.Occurs args → c'.value? s = c.value? s
  var : ∀ s, ¬ s.Occurs args → ∀ text, variableValue env s = some text →
    ∃ v, s.Writes text v ∧ c'.value? s = some v
  default : ∀ s, ¬ s.Occurs args → variableValue env s = none →
    c'.value? s = Settings.default.value? s

theorem layered_of_read (h : Settings.read args [] = .ok c)
    (h' : Settings.read args env = .ok c') : Layered args env c c' := by
  obtain ⟨os, hos⟩ := CommandLine.exists_spelled_of_read h
  rw [CommandLine.read_eq_ok_iff hos] at h h'
  constructor
  · intro s hs
    obtain ⟨o, ho, hv⟩ := h s
    obtain ⟨o', ho', hv'⟩ := h' s
    rw [Setting.sources_of_occurs hos hs] at ho ho'
    rw [hv, hv', Setting.takes_unique ho ho']
  · intro s hs text htext
    obtain ⟨o', ho', hv'⟩ := h' s
    rw [Setting.sources_of_not_occurs hos hs, htext] at ho'
    obtain ⟨v, hv, rfl⟩ := Setting.takes_singleton.mp ho'
    exact ⟨v, hv, hv'⟩
  · intro s hs hnone
    obtain ⟨o', ho', hv'⟩ := h' s
    rw [Setting.sources_of_not_occurs hos hs, hnone] at ho'
    obtain rfl := ho'
    exact hv'

/-- With variables nothing else can go wrong than a text of one that counts. -/
theorem read_fails_iff (h : Settings.read args [] = .ok c) :
    (∃ halt, Settings.read args env = .error halt) ↔
      ∃ s text, ¬ s.Occurs args ∧ variableValue env s = some text ∧ ¬ ∃ v, s.Writes text v := by
  obtain ⟨os, hos⟩ := CommandLine.exists_spelled_of_read h
  have hfails : (∃ halt, Settings.read args env = .error halt) ↔
      ¬ ∃ c', Settings.read args env = .ok c' := by
    cases Settings.read args env <;> simp
  rw [hfails, CommandLine.exists_read_iff hos, not_forall]
  rw [CommandLine.read_eq_ok_iff hos] at h
  refine exists_congr fun s => ?_
  by_cases hs : s.Occurs args
  · obtain ⟨o, ho, -⟩ := h s
    rw [Setting.sources_of_occurs hos hs] at ho ⊢
    exact iff_of_false (fun hnone => hnone ⟨o, ho⟩) (by simp [hs])
  · rw [Setting.sources_of_not_occurs hos hs]
    cases variableValue env s with
    | none => exact iff_of_false (fun hnone => hnone ⟨none, rfl⟩) (by simp)
    | some text => simp [hs, Setting.takes_singleton]

/-- Options in place of the variables give the same settings. -/
theorem read_standIns (h : Settings.read args [] = .ok c) (h' : Settings.read args env = .ok c')
    {ss : List Setting} (hss : ss.Perm Setting.all) :
    Settings.read (ss.flatMap (standIn env args) ++ args) [] = .ok c' := by
  obtain ⟨os, hos⟩ := CommandLine.exists_spelled_of_read h
  rw [CommandLine.read_eq_ok_iff hos] at h'
  rw [CommandLine.read_eq_ok_iff (Setting.spelled_standIns hos ss)]
  intro s
  obtain ⟨o, ho, hv⟩ := h' s
  have hnone : variableValue [] s = none := by
    cases s <;> rfl
  rw [CommandLine.sources_of_none hnone, textsOf_append, Setting.textsOf_standIns hss]
  by_cases hs : s.Occurs args
  · rw [Setting.sources_of_occurs hos hs] at ho
    rw [standIn?, if_pos hs]
    exact ⟨o, ho, hv⟩
  · rw [Setting.sources_of_not_occurs hos hs] at ho
    rw [standIn?, if_neg hs, Setting.textsOf_of_not_occurs hos hs, List.append_nil]
    cases htext : variableValue env s with
    | none =>
      rw [htext] at ho
      exact ⟨o, ho, hv⟩
    | some text =>
      rw [htext] at ho
      by_cases hoff : s.isSwitch = true ∧ text ≠ "true"
      · obtain ⟨v, hw, rfl⟩ := Setting.takes_singleton.mp ho
        refine ⟨none, ?_, ?_⟩
        · rw [Option.filter_some, if_neg (by simp [hoff])]
          rfl
        · rw [hv]
          exact Setting.value_of_switch_off hoff.1 hw hoff.2
      · refine ⟨o, ?_, hv⟩
        rw [Option.filter_some, if_pos (by simpa [or_iff_not_imp_left] using hoff)]
        exact ho

/-- **Options win over variables, and variables over defaults.** Where arguments give settings by
themselves, variables change those settings alone whose options do not occur; only a text of such a
variable can be refused; and options in place of the variables, in any order in front of the
arguments, do the same. -/
theorem read_layered (h : Settings.read args [] = .ok c) (env : Environment) :
    ((∃ halt, Settings.read args env = .error halt) ↔
      ∃ s text, ¬ s.Occurs args ∧ variableValue env s = some text ∧ ¬ ∃ v, s.Writes text v) ∧
      ∀ c', Settings.read args env = .ok c' →
        Layered args env c c' ∧
          ∀ ss : List Setting, ss.Perm Setting.all →
            Settings.read (ss.flatMap (standIn env args) ++ args) [] = .ok c' := by
  refine ⟨read_fails_iff h, fun c' h' => ⟨layered_of_read h h', fun ss hss => ?_⟩⟩
  exact read_standIns h h' hss

/-- A root that would be refused and a list, both not looked at, beside variables that count. -/
def someVariables : Environment :=
  [("DRM_AGENT_SYS_PATH", ""), ("DRM_AGENT_ENABLE_COLLECTORS", "y"),
    ("DRM_AGENT_COLLECT_INTERVAL_MS", "10"), ("DRM_AGENT_DISABLE_COLLECTORS", ""),
    ("DRM_AGENT_JSON_LOGS", "false")]

/-- A variable for each setting that has one. -/
def allVariables : Environment :=
  [("DRM_AGENT_JSON_LOGS", "true"), ("DRM_AGENT_FORMAT", "json"),
    ("DRM_AGENT_DISABLE_COLLECTORS", ""), ("DRM_AGENT_ENABLE_COLLECTORS", "x,"),
    ("DRM_AGENT_COLLECT_TIMEOUT_MS", "7"), ("DRM_AGENT_COLLECT_INTERVAL_MS", "10"),
    ("DRM_AGENT_SYS_PATH", "/a"), ("DRM_AGENT_ID", "here")]

/-- One text that is refused, and without it a reading that options alone give as well; and all
variables at once, each of which decides its setting. -/
theorem read_layered_someVariables :
    (∃ halt, Settings.read ["--sys-path", "/a", "--enable-collector=x"]
      (("DRM_AGENT_FORMAT", "yaml") :: someVariables) = .error halt) ∧
      (∃ c', Settings.read ["--sys-path", "/a", "--enable-collector=x"] someVariables = .ok c' ∧
        c'.value? .sysPath = some "/a" ∧ c'.value? .enable = some ["x"] ∧
        c'.value? .disable = some [""] ∧ c'.value? .collectInterval = some 10 ∧
        Settings.read ["--collect-interval-ms=10", "--disable-collector=", "--sys-path", "/a",
          "--enable-collector=x"] [] = .ok c') ∧
      Settings.read ["--once"] allVariables =
        .ok ⟨some "here", "/a", 10, 7, ["x", ""], [""], .json, true, true⟩ ∧
      Settings.read ["--agent-id=here", "--sys-path=/a", "--collect-interval-ms=10",
        "--collect-timeout-ms=7", "--enable-collector=x,", "--disable-collector=", "--format=json",
        "--json-logs", "--once"] [] =
          .ok ⟨some "here", "/a", 10, 7, ["x", ""], [""], .json, true, true⟩ := by
  have hbase : Settings.read ["--sys-path", "/a", "--enable-collector=x"] [] =
      .ok ⟨none, "/a", 15000, 5000, ["x"], [], .text, false, false⟩ := by cbv
  have hvariables : Settings.read ["--sys-path", "/a", "--enable-collector=x"] someVariables =
      .ok ⟨none, "/a", 10, 5000, ["x"], [""], .text, false, false⟩ := by cbv
  have honce : Settings.read ["--once"] [] =
      .ok ⟨none, "/sys", 15000, 5000, [], [], .text, false, true⟩ := by cbv
  have hall : Settings.read ["--once"] allVariables =
      .ok ⟨some "here", "/a", 10, 7, ["x", ""], [""], .json, true, true⟩ := by cbv
  obtain ⟨hfails, -⟩ := read_layered hbase (("DRM_AGENT_FORMAT", "yaml") :: someVariables)
  obtain ⟨hlayered, hstandIns⟩ := (read_layered hbase someVariables).2 _ hvariables
  obtain ⟨-, hallStandIns⟩ := (read_layered honce allVariables).2 _ hall
  refine ⟨?_, ?_, hall, ?_⟩
  · refine hfails.mpr ⟨.format, "yaml", by decide, rfl, ?_⟩
    rintro ⟨f, ⟨htext, -⟩ | ⟨hjson, -⟩⟩
    · exact absurd htext (by decide)
    · exact absurd hjson (by decide)
  · refine ⟨_, hvariables, hlayered.option .sysPath (by decide),
      hlayered.option .enable (by decide), rfl, rfl, ?_⟩
    have hoptions : Setting.all.flatMap
        (standIn someVariables ["--sys-path", "/a", "--enable-collector=x"]) =
          ["--collect-interval-ms=10", "--disable-collector="] := by decide
    have hread := hstandIns Setting.all (.refl _)
    rwa [hoptions] at hread
  · have hoptions : Setting.all.flatMap (standIn allVariables ["--once"]) =
        ["--agent-id=here", "--sys-path=/a", "--collect-interval-ms=10", "--collect-timeout-ms=7",
          "--enable-collector=x,", "--disable-collector=", "--format=json", "--json-logs"] := by
      decide
    have hread := hallStandIns Setting.all (.refl _)
    rwa [hoptions] at hread

end Settings

end CardTelemetry
