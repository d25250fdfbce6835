import CardTelemetry.Proofs.Settings.Sources
import Mathlib

/-!
# Settings written as options

A setting is written by its option with a text for the value, a list also by several; what is not
set, empty or off is not written. Read without variables such options give back the settings, in
whatever order they stand and however each of them is spelled. An option too many is an error,
except for lists, where it is one more part. Arguments are texts, so nothing is said of a root that
is not UTF-8.
-/

namespace CardTelemetry

open CommandLine (Spelled variableValue)

namespace Setting

/-- Names in groups, with a text for each group. -/
def SpellsNames (texts : List String) (names : List String) : Prop :=
  texts ≠ [] ∧ ∃ groups, List.Forall₂ WritesNames texts groups ∧ groups.flatten = names

/-- Texts that stand for a value: for a list one or more, else one. -/
def Spells : (s : Setting) → List String → s.Value → Prop
  | .enable, texts, names => SpellsNames texts names
  | .disable, texts, names => SpellsNames texts names
  | s, texts, v => ∃ text, texts = [text] ∧ s.Writes text v

/-- The text that a value is written as. -/
def text : (s : Setting) → s.Value → String
  | .agentId, v => v
  | .sysPath, v => v
  | .collectInterval, n => n.toNat.repr
  | .collectTimeout, n => n.toNat.repr
  | .enable, names => ",".intercalate names
  | .disable, names => ",".intercalate names
  | .format, .text => "text"
  | .format, .json => "json"
  | .jsonLogs, on => if on then "true" else "false"
  | .once, on => if on then "true" else "false"

end Setting

namespace Settings

/-- The value of a setting, where it is to be written. -/
def written? (c : Settings) : (s : Setting) → Option s.Value
  | .agentId => c.agentId
  | .sysPath => some c.sysPath
  | .collectInterval => some c.collectInterval
  | .collectTimeout => some c.collectTimeout
  | .enable => if c.enable = [] then none else some c.enable
  | .disable => if c.disable = [] then none else some c.disable
  | .format => some c.format
  | .jsonLogs => if c.jsonLogs then some true else none
  | .once => if c.once then some true else none

/-- The texts are those of what is to be written, among each other in any order. -/
def WrittenAs (c : Settings) (os : List Occurrence) : Prop :=
  ∀ s, match c.written? s with
    | some v => s.Spells (textsOf s os) v
    | none => textsOf s os = []

/-- Each setting with one text for all of its value. -/
def occurrences (c : Settings) : List Occurrence :=
  Setting.all.filterMap fun s => ((c.written? s).map s.text).map fun text => (s, text)

end Settings

/-! ### Texts and values -/

namespace Setting

variable {s : Setting} {texts : List String}

theorem takes_of_forall_writes (h : s.isList = true) {o : Option s.Value} {vs : List s.Value}
    (hw : List.Forall₂ s.Writes texts vs) :
    s.Takes o texts (vs.foldl (fun o v => some (s.grown o v)) o) := by
  induction hw generalizing o with
  | nil => rfl
  | cons hv _ ih => exact ⟨.inr h, _, hv, ih⟩

theorem foldl_groups (groups : List (List String)) (names : List String) :
    groups.foldl (fun o ns => some (o.getD [] ++ ns)) (some names) =
      some (names ++ groups.flatten) := by
  induction groups generalizing names with
  | nil => simp
  | cons ns groups ih =>
    rw [List.foldl_cons, ih, List.flatten_cons, ← List.append_assoc]
    rfl

/-- Texts that stand for a value lead to it. -/
theorem takes_of_spells {v : s.Value} (h : s.Spells texts v) : s.Takes none texts (some v) := by
  have hnames {groups : List (List String)} (hne : texts ≠ [])
      (hw : List.Forall₂ WritesNames texts groups) :
      groups.foldl (fun o ns => some (o.getD [] ++ ns)) none = some groups.flatten := by
    cases hw with
    | nil => exact absurd rfl hne
    | cons _ _ => exact foldl_groups _ _
  cases s with
  | enable =>
    obtain ⟨hne, groups, hw, rfl⟩ := h
    rw [← hnames hne hw]
    exact takes_of_forall_writes (s := .enable) rfl hw
  | disable =>
    obtain ⟨hne, groups, hw, rfl⟩ := h
    rw [← hnames hne hw]
    exact takes_of_forall_writes (s := .disable) rfl hw
  | _ =>
    obtain ⟨text, rfl, hw⟩ := h
    exact takes_singleton.mpr ⟨v, hw, rfl⟩

theorem writesSwitch_text (on : Bool) : WritesSwitch (if on then "true" else "false") on := by
  cases on <;> simp [WritesSwitch]

end Setting

namespace Settings

variable {c : Settings} {os before after : List Occurrence} {args : List String} {s : Setting}

/-- What is not written is at its default. -/
theorem written?_or_default (c : Settings) (s : Setting) :
    (c.written? s).or (default.value? s) = c.value? s := by
  have hlist (ns : List String) : (if ns = [] then none else some ns).or (some []) = some ns := by
    split_ifs with h
    · rw [h]
      rfl
    · rfl
  have hswitch (on : Bool) : (if on then some true else none).or (some false) = some on := by
    cases on <;> rfl
  cases s with
  | agentId => exact Option.or_none
  | enable => exact hlist c.enable
  | disable => exact hlist c.disable
  | jsonLogs => exact hswitch c.jsonLogs
  | once => exact hswitch c.once
  | _ => rfl

theorem WrittenAs.takes (h : c.WrittenAs os) (s : Setting) :
    s.Takes none (textsOf s os) (c.written? s) := by
  have hs := h s
  cases hv : c.written? s with
  | none =>
    rw [hv] at hs
    rw [hs]
    rfl
  | some v =>
    rw [hv] at hs
    exact Setting.takes_of_spells hs

/-- Options that write settings are read as them where there are no variables. -/
theorem WrittenAs.read (h : c.WrittenAs os) (hargs : Spelled os args) {env : Environment}
    (henv : ∀ s, variableValue env s = none) : Settings.read args env = .ok c := by
  rw [CommandLine.read_eq_ok_iff hargs]
  intro s
  rw [CommandLine.sources_of_none (henv s)]
  exact ⟨_, h.takes s, (c.written?_or_default s).symm⟩

/-! ### Options for given settings -/

theorem textsOf_occurrences (c : Settings) (s : Setting) :
    textsOf s c.occurrences = ((c.written? s).map s.text).toList := by
  rw [occurrences, textsOf_filterMap Setting.nodup_all, if_pos (Setting.mem_all s)]

/-- Settings with a root and with names without commas can be written. -/
theorem writtenAs_occurrences (hpath : c.sysPath ≠ "")
    (hcommas : ∀ n ∈ c.enable ++ c.disable, ',' ∉ n.toList) : c.WrittenAs c.occurrences := by
  obtain ⟨henable, hdisable⟩ := List.forall_mem_append.mp hcommas
  have hnames {names : List String} (hne : names ≠ []) (h : ∀ n ∈ names, ',' ∉ n.toList) :
      Setting.SpellsNames [",".intercalate names] names :=
    ⟨by simp, [names], .cons ⟨hne, h, rfl⟩ .nil, by simp⟩
  intro s
  rw [textsOf_occurrences]
  cases hv : c.written? s with
  | none => rfl
  | some v =>
    show s.Spells [s.text v] v
    cases s with
    | agentId => exact ⟨_, rfl, rfl⟩
    | sysPath =>
      obtain rfl := Option.some.inj hv
      exact ⟨_, rfl, rfl, hpath⟩
    | collectInterval => exact ⟨_, rfl, Text.isWord_repr v⟩
    | collectTimeout => exact ⟨_, rfl, Text.isWord_repr v⟩
    | enable =>
      obtain ⟨hne, hsome⟩ := Option.ite_none_left_eq_some.mp hv
      obtain rfl := Option.some.inj hsome
      exact hnames hne henable
    | disable =>
      obtain ⟨hne, hsome⟩ := Option.ite_none_left_eq_some.mp hv
      obtain rfl := Option.some.inj hsome
      exact hnames hne hdisable
    | format => cases v <;> exact ⟨_, rfl, by simp [Setting.text, Setting.Writes]⟩
    | jsonLogs => exact ⟨_, rfl, Setting.writesSwitch_text v⟩
    | once => exact ⟨_, rfl, Setting.writesSwitch_text v⟩

/-- A switch is written only where it is on. -/
theorem WrittenAs.switch_on (h : c.WrittenAs os) (hs : s.isSwitch = true) {text : String}
    (htext : text ∈ textsOf s os) : text = "true" := by
  have hon {on : Bool} {v : Bool} (hv : (if on then some true else none) = some v)
      {texts : List String} (hw : ∃ text, texts = [text] ∧ Setting.WritesSwitch text v)
      (hmem : text ∈ texts) : text = "true" := by
    obtain ⟨-, hsome⟩ := Option.ite_none_right_eq_some.mp hv
    obtain rfl := Option.some.inj hsome
    obtain ⟨t, rfl, ⟨rfl, -⟩ | ⟨-, hfalse⟩⟩ := hw
    · exact List.mem_singleton.mp hmem
    · cases hfalse
  have hw := h s
  cases hv : c.written? s with
  | none =>
    rw [hv] at hw
    rw [hw] at htext
    cases htext
  | some v =>
    rw [hv] at hw
    cases s with
    | jsonLogs => exact hon hv hw htext
    | once => exact hon hv hw htext
    | _ => cases hs

theorem WrittenAs.exists_spelled (h : c.WrittenAs os) : ∃ args, Spelled os args := by
  have hswitch : ∀ o ∈ os, o.1.isSwitch = true → o.2 = "true" := by
    intro o ho hs
    apply h.switch_on hs
    exact List.mem_map_of_mem (List.mem_filter.mpr ⟨ho, by simp⟩)
  clear h
  induction os with
  | nil => exact ⟨[], .nil⟩
  | cons o os ih =>
    obtain ⟨ho, hos⟩ := List.forall_mem_cons.mp hswitch
    obtain ⟨args, hargs⟩ := ih hos
    obtain ⟨s, text⟩ := o
    cases hs : s.isSwitch with
    | true =>
      obtain rfl := ho hs
      exact ⟨_, .switch hs hargs⟩
    | false => exact ⟨_, .attached hs hargs⟩

/-! ### Options that are repeated -/

/-- The first option that is taken for a setting. -/
theorem exists_first (h : textsOf s os ≠ []) :
    ∃ before text after, os = before ++ (s, text) :: after ∧ textsOf s before = [] := by
  induction os with
  | nil => exact absurd rfl h
  | cons o os ih =>
    obtain ⟨s', text⟩ := o
    by_cases hs : s = s'
    · subst hs
      exact ⟨[], text, os, rfl, rfl⟩
    · rw [textsOf_cons_of_ne hs] at h
      obtain ⟨before, text', after, rfl, hbefore⟩ := ih h
      exact ⟨(s', text) :: before, text', after, rfl, by rw [textsOf_cons_of_ne hs, hbefore]⟩

/-- After texts that are taken, one more for a setting that has one is refused. -/
theorem read_of_repeated {text : String} (hs : s.isList = false)
    (hbefore : ∀ s' : Setting, ∃ o, s'.Takes none (textsOf s' before) o)
    (hoccurs : textsOf s before ≠ []) (hargs : Spelled (before ++ (s, text) :: after) args)
    (env : Environment) :
    Settings.read args env = .error (.complaint (.repeated s)) := by
  choose o htakes using hbefore
  have hgiven : Given.nothing.occurAll before = .ok (.ofGet o) := by
    rw [Given.occurAll_eq_ok_iff]
    intro s'
    rw [Given.get_nothing, Given.get_ofGet]
    exact htakes s'
  have hhas : (Given.ofGet o).has s = true := by
    rw [Given.has_eq, Given.get_ofGet, Option.isSome_iff_ne_none]
    exact fun heq => hoccurs ((Setting.eq_none_iff_of_takes (htakes s)).mp heq)
  rw [CommandLine.read_of_spelled hargs, Given.occurAll_append, hgiven]
  simp [Except.bind, Given.occurAll, Given.occur, hhas, hs, Except.map, Except.mapError]

/-- An option that is repeated among those that write settings is refused. -/
theorem WrittenAs.read_of_repeated (h : c.WrittenAs (before ++ after)) (hs : s.isList = false)
    (hoccurs : textsOf s (before ++ after) ≠ []) {text : String}
    (htext : (∃ v, s.Writes text v) ∨ textsOf s before ≠ [])
    (hargs : Spelled (before ++ (s, text) :: after) args) (env : Environment) :
    Settings.read args env = .error (.complaint (.repeated s)) := by
  have hstart {left right : List Occurrence} (heq : before ++ after = left ++ right)
      (s' : Setting) : ∃ o, s'.Takes none (textsOf s' left) o := by
    have htakes := h.takes s'
    rw [heq, textsOf_append] at htakes
    obtain ⟨o, ho, -⟩ := Setting.takes_append.mp htakes
    exact ⟨o, ho⟩
  by_cases hbefore : textsOf s before = []
  · -- the option that was there before is now the second one
    obtain ⟨v, hv⟩ := htext.resolve_right fun hne => hne hbefore
    have hafter : textsOf s after ≠ [] := by
      rwa [textsOf_append, hbefore, List.nil_append] at hoccurs
    obtain ⟨mid, text', rest, rfl, hmid⟩ := exists_first hafter
    have hself : textsOf s (before ++ (s, text) :: mid) = [text] := by
      rw [textsOf_append, hbefore, textsOf_cons_self, hmid]
      rfl
    have hargs' : Spelled ((before ++ (s, text) :: mid) ++ (s, text') :: rest) args := by
      rwa [List.append_assoc, List.cons_append]
    refine Settings.read_of_repeated hs ?_ (by simp [hself]) hargs' env
    intro s'
    by_cases hs' : s' = s
    · subst hs'
      rw [hself]
      exact ⟨some v, Setting.takes_singleton.mpr ⟨v, hv, rfl⟩⟩
    · rw [textsOf_append, textsOf_cons_of_ne hs', ← textsOf_append]
      exact hstart (List.append_assoc _ _ _).symm s'
  · exact Settings.read_of_repeated hs (hstart rfl) hbefore hargs env

/-- **Settings survive being written as options.** Settings with a root and with names without
commas can be written; what writes them is read as them where there are no variables, in any order
and spelling; and an option that is there once more is refused as a repetition, except for lists. -/
theorem written_and_read (c : Settings) (hpath : c.sysPath ≠ "")
    (hcommas : ∀ n ∈ c.enable ++ c.disable, ',' ∉ n.toList) :
    c.WrittenAs c.occurrences ∧
      ∀ os, c.WrittenAs os →
        (∃ args, Spelled os args) ∧
          (∀ args, Spelled os args → ∀ env, (∀ s, variableValue env s = none) →
            Settings.read args env = .ok c) ∧
          ∀ before after, os = before ++ after → ∀ s, s.isList = false → textsOf s os ≠ [] →
            ∀ text, ((∃ v, s.Writes text v) ∨ textsOf s before ≠ []) →
              ∀ args, Spelled (before ++ (s, text) :: after) args →
                ∀ env, Settings.read args env = .error (.complaint (.repeated s)) := by
  refine ⟨writtenAs_occurrences hpath hcommas, fun os hos => ⟨hos.exists_spelled, ?_, ?_⟩⟩
  · intro args hargs env henv
    exact hos.read hargs henv
  · rintro before after rfl s hs hoccurs text htext args hargs env
    exact hos.read_of_repeated hs hoccurs htext hargs env

/-- Texts that look like options or are empty, and numbers at both ends of their range. -/
def odd : Settings :=
  ⟨some "--once=x", "-", 0, 18446744073709551615, ["", "a=b", ""], [], .json, false, true⟩

def oddOccurrences : List Occurrence :=
  [(.once, "true"), (.enable, ""), (.sysPath, "-"), (.format, "json"),
    (.collectTimeout, "18446744073709551615"), (.enable, "a=b,"), (.agentId, "--once=x"),
    (.collectInterval, "00")]

theorem writtenAs_oddOccurrences : odd.WrittenAs oddOccurrences := by
  have hgroups : List.Forall₂ Setting.WritesNames ["", "a=b,"] [[""], ["a=b", ""]] :=
    .cons (Setting.splitCommas_eq_iff.mp (by cbv))
      (.cons (Setting.splitCommas_eq_iff.mp (by cbv)) .nil)
  intro s
  cases s with
  | agentId => exact ⟨_, rfl, rfl⟩
  | sysPath => exact ⟨_, rfl, rfl, by decide⟩
  | collectInterval => exact ⟨_, rfl, Text.readWord_eq_ok_iff.mp (by cbv)⟩
  | collectTimeout => exact ⟨_, rfl, Text.readWord_eq_ok_iff.mp (by cbv)⟩
  | enable => exact ⟨by decide, _, hgroups, rfl⟩
  | disable => rfl
  | format => exact ⟨_, rfl, .inr ⟨rfl, rfl⟩⟩
  | jsonLogs => rfl
  | once => exact ⟨_, rfl, .inl ⟨rfl, rfl⟩⟩

/-- A list in two parts, both ways of spelling, and a root that is given twice. -/
theorem written_and_read_odd :
    Settings.read ["--once", "--enable-collector", "", "--sys-path", "-", "--format=json",
        "--collect-timeout-ms=18446744073709551615", "--enable-collector=a=b,",
        "--agent-id=--once=x", "--collect-interval-ms", "00"] [] = .ok odd ∧
      Settings.read ["--once", "--enable-collector", "", "--sys-path", "-", "--format=json",
        "--collect-timeout-ms=18446744073709551615", "--enable-collector=a=b,",
        "--sys-path=-", "--agent-id=--once=x", "--collect-interval-ms", "00"] [] =
          .error (.complaint (.repeated .sysPath)) := by
  obtain ⟨-, hall⟩ := written_and_read odd (by decide) (by decide)
  obtain ⟨-, hread, hrepeated⟩ := hall _ writtenAs_oddOccurrences
  constructor
  · apply hread
    · exact .switch rfl (.apart rfl (.inl (by decide)) (.apart rfl (.inr rfl) (.attached rfl
        (.attached rfl (.attached rfl (.attached rfl (.apart rfl (.inl (by decide)) .nil)))))))
    · exact fun s => by cases s <;> rfl
  · apply hrepeated (oddOccurrences.take 6) (oddOccurrences.drop 6) rfl .sysPath rfl (by decide) "-"
      (.inr (by decide))
    exact .switch rfl (.apart rfl (.inl (by decide)) (.apart rfl (.inr rfl) (.attached rfl
      (.attached rfl (.attached rfl (.attached rfl (.attached rfl
        (.apart rfl (.inl (by decide)) .nil))))))))

end Settings

end CardTelemetry
