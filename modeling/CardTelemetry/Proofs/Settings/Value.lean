import CardTelemetry.Settings.Given
import CardTelemetry.Proofs.Text.Lines
import CardTelemetry.Proofs.Text.Numeral

/-!
# Values of settings

Each setting has values of its own type, and a text may stand for one of them. What is given is a
value or none for every setting; a text that is taken changes the value of its own setting and no
other, and only a list keeps what it had.
-/

namespace CardTelemetry

theorem bind_eq_ok_iff {ε α β : Type} {x : Except ε α} {f : α → Except ε β} {b : β} :
    x.bind f = .ok b ↔ ∃ a, x = .ok a ∧ f a = .ok b := by
  cases x <;> simp [Except.bind]

theorem bind_congr_ok {ε α β : Type} {x : Except ε α} {f g : α → Except ε β}
    (h : ∀ a, x = .ok a → f a = g a) : x.bind f = x.bind g := by
  cases x with
  | error e => rfl
  | ok a => exact h a rfl

/-- What a setting is set to. -/
abbrev Setting.Value : Setting → Type
  | .agentId => String
  | .sysPath => String
  | .collectInterval => UInt64
  | .collectTimeout => UInt64
  | .enable => List String
  | .disable => List String
  | .format => Format
  | .jsonLogs => Bool
  | .once => Bool

namespace Setting

/-- Names between commas. -/
def WritesNames (text : String) (names : List String) : Prop :=
  names ≠ [] ∧ (∀ n ∈ names, ',' ∉ n.toList) ∧ ",".intercalate names = text

def WritesSwitch (text : String) (on : Bool) : Prop :=
  (text = "true" ∧ on = true) ∨ (text = "false" ∧ on = false)

/-- A text stands for a value. -/
def Writes : (s : Setting) → String → s.Value → Prop
  | .agentId, text, v => v = text
  | .sysPath, text, v => v = text ∧ text ≠ ""
  | .collectInterval, text, v => Text.IsWord text v
  | .collectTimeout, text, v => Text.IsWord text v
  | .enable, text, v => WritesNames text v
  | .disable, text, v => WritesNames text v
  | .format, text, v => (text = "text" ∧ v = .text) ∨ (text = "json" ∧ v = .json)
  | .jsonLogs, text, v => WritesSwitch text v
  | .once, text, v => WritesSwitch text v

/-- The value that a text stands for, or what is wrong with the text. -/
def parse : (s : Setting) → String → Except Complaint s.Value
  | .agentId, text => .ok text
  | .sysPath, text => if text = "" then .error (.missingValue .sysPath) else .ok text
  | .collectInterval, text => Given.readNumber .collectInterval text
  | .collectTimeout, text => Given.readNumber .collectTimeout text
  | .enable, text => .ok (Given.splitCommas text)
  | .disable, text => .ok (Given.splitCommas text)
  | .format, text => Given.readFormat text
  | .jsonLogs, text => Given.readSwitch .jsonLogs text
  | .once, text => Given.readSwitch .once text

/-- What one more value makes of the one before: a list grows, any other value is replaced. -/
def grown : (s : Setting) → Option s.Value → s.Value → s.Value
  | .enable, old, new => old.getD [] ++ new
  | .disable, old, new => old.getD [] ++ new
  | .agentId, _, new => new
  | .sysPath, _, new => new
  | .collectInterval, _, new => new
  | .collectTimeout, _, new => new
  | .format, _, new => new
  | .jsonLogs, _, new => new
  | .once, _, new => new

@[simp] theorem grown_none (s : Setting) (v : s.Value) : s.grown none v = v := by
  cases s <;> rfl

/-- Texts taken one after the other lead from one value to another; where one is there already only
a list takes a text. -/
def Takes (s : Setting) : Option s.Value → List String → Option s.Value → Prop
  | old, [], new => new = old
  | old, text :: texts, new =>
    (old = none ∨ s.isList = true) ∧
      ∃ v, s.Writes text v ∧ Takes s (some (s.grown old v)) texts new

/-! ### Texts -/

/-- A text is split at its commas and nowhere else. -/
theorem splitCommas_eq_iff {text : String} {names : List String} :
    Given.splitCommas text = names ↔ WritesNames text names := by
  have hback (ls : List (List Char)) : (ls.map String.ofList).map String.toList = ls := by
    rw [List.map_map]
    exact List.map_id'' (fun _ => String.toList_ofList) ls
  constructor
  · rintro rfl
    refine ⟨by simp [Given.splitCommas, List.splitOn_ne_nil], ?_, ?_⟩
    · intro n hn
      obtain ⟨l, hl, rfl⟩ := List.mem_map.mp hn
      rw [String.toList_ofList]
      exact Text.not_mem_of_mem_splitOn l hl
    · rw [← String.toList_inj, String.toList_intercalate, Given.splitCommas, hback]
      exact List.intercalate_splitOn ','
  · rintro ⟨hne, hcommas, rfl⟩
    have hsplit : ([','].intercalate (names.map String.toList)).splitOn ',' =
        names.map String.toList :=
      List.splitOn_intercalate ',' (by simpa using hcommas) (by simpa using hne)
    rw [Given.splitCommas, String.toList_intercalate]
    show List.map String.ofList (([','].intercalate (names.map String.toList)).splitOn ',') = names
    rw [hsplit, List.map_map]
    exact List.map_id'' (fun _ => String.ofList_toList) names

theorem readNumber_eq_ok_iff {s : Setting} {text : String} {n : UInt64} :
    Given.readNumber s text = .ok n ↔ Text.IsWord text n := by
  rw [← Text.readWord_eq_ok_iff, Given.readNumber]
  split <;> simp [*]

theorem readSwitch_eq_ok_iff {s : Setting} {text : String} {on : Bool} :
    Given.readSwitch s text = .ok on ↔ WritesSwitch text on := by
  unfold Given.readSwitch WritesSwitch
  split_ifs with hempty htrue hfalse
  · simp [hempty]
  · simp [htrue, eq_comm]
  · simp [hfalse, eq_comm]
  · simp [htrue, hfalse]

theorem readFormat_eq_ok_iff {text : String} {f : Format} :
    Given.readFormat text = .ok f ↔ (text = "text" ∧ f = .text) ∨ (text = "json" ∧ f = .json) := by
  unfold Given.readFormat
  split_ifs with hempty htext hjson
  · simp [hempty]
  · simp [htext, eq_comm]
  · simp [hjson, eq_comm]
  · simp [htext, hjson]

/-- A text is read as the value that it stands for. -/
theorem parse_eq_ok_iff {s : Setting} {text : String} {v : s.Value} :
    s.parse text = .ok v ↔ s.Writes text v := by
  cases s with
  | agentId => simp [parse, Writes, eq_comm]
  | sysPath =>
    show (if text = "" then Except.error _ else .ok text) = .ok v ↔ v = text ∧ text ≠ ""
    split_ifs with hempty
    · simp [hempty]
    · simp [hempty, eq_comm]
  | collectInterval => exact readNumber_eq_ok_iff
  | collectTimeout => exact readNumber_eq_ok_iff
  | enable => exact (Except.ok.injEq _ _).to_iff.trans splitCommas_eq_iff
  | disable => exact (Except.ok.injEq _ _).to_iff.trans splitCommas_eq_iff
  | format => exact readFormat_eq_ok_iff
  | jsonLogs => exact readSwitch_eq_ok_iff
  | once => exact readSwitch_eq_ok_iff

theorem Writes.unique {s : Setting} {text : String} {v v' : s.Value} (h : s.Writes text v)
    (h' : s.Writes text v') : v = v' :=
  Except.ok.inj ((parse_eq_ok_iff.mpr h).symm.trans (parse_eq_ok_iff.mpr h'))

end Setting

/-- A setting, and the text for it where its option occurs. -/
abbrev Occurrence := Setting × String

/-- The texts for a setting, in order. -/
def textsOf (s : Setting) (os : List Occurrence) : List String :=
  (os.filter fun o => o.1 = s).map Prod.snd

section TextsOf

variable {s s' : Setting}

theorem textsOf_cons_self (s : Setting) (text : String) (os : List Occurrence) :
    textsOf s ((s, text) :: os) = text :: textsOf s os := by
  simp [textsOf]

theorem textsOf_cons_of_ne {text : String} {os : List Occurrence} (h : s' ≠ s) :
    textsOf s' ((s, text) :: os) = textsOf s' os := by
  simp [textsOf, h.symm]

theorem textsOf_append (s : Setting) (os os' : List Occurrence) :
    textsOf s (os ++ os') = textsOf s os ++ textsOf s os' := by
  simp [textsOf]

/-- The texts where there is one at most for each of some settings. -/
theorem textsOf_filterMap {ss : List Setting} (h : ss.Nodup) (text? : Setting → Option String)
    (s : Setting) :
    textsOf s (ss.filterMap fun s => (text? s).map fun text => (s, text)) =
      if s ∈ ss then (text? s).toList else [] := by
  induction ss with
  | nil => rfl
  | cons s' ss ih =>
    obtain ⟨hnew, hss⟩ := List.nodup_cons.mp h
    specialize ih hss
    by_cases hs : s = s'
    · subst hs
      rw [if_neg hnew] at ih
      cases htext : text? s with
      | none => rw [List.filterMap_cons_none (by simp [htext]), ih]; simp
      | some text =>
        rw [List.filterMap_cons_some (by simp [htext]; rfl), textsOf_cons_self, ih]
        simp
    · have hmem : s ∈ s' :: ss ↔ s ∈ ss := by simp [hs]
      simp only [hmem]
      cases htext : text? s' with
      | none => rw [List.filterMap_cons_none (by simp [htext]), ih]
      | some text =>
        rw [List.filterMap_cons_some (by simp [htext]; rfl), textsOf_cons_of_ne hs, ih]

end TextsOf

namespace Given

def get (g : Given) : (s : Setting) → Option s.Value
  | .agentId => g.agentId
  | .sysPath => g.sysPath
  | .collectInterval => g.collectInterval
  | .collectTimeout => g.collectTimeout
  | .enable => g.enable
  | .disable => g.disable
  | .format => g.format
  | .jsonLogs => g.jsonLogs
  | .once => g.once

def set (g : Given) : (s : Setting) → s.Value → Given
  | .agentId, v => { g with agentId := some v }
  | .sysPath, v => { g with sysPath := some v }
  | .collectInterval, v => { g with collectInterval := some v }
  | .collectTimeout, v => { g with collectTimeout := some v }
  | .enable, v => { g with enable := some v }
  | .disable, v => { g with disable := some v }
  | .format, v => { g with format := some v }
  | .jsonLogs, v => { g with jsonLogs := some v }
  | .once, v => { g with once := some v }

variable {g g' : Given} {s s' : Setting}

theorem ext_get (h : ∀ s, g.get s = g'.get s) : g = g' := by
  cases g
  cases g'
  simp only [mk.injEq]
  exact ⟨h .agentId, h .sysPath, h .collectInterval, h .collectTimeout, h .enable, h .disable,
    h .format, h .jsonLogs, h .once⟩

@[simp] theorem get_set_self (g : Given) (s : Setting) (v : s.Value) :
    (g.set s v).get s = some v := by
  cases s <;> rfl

theorem get_set_of_ne (h : s' ≠ s) (g : Given) (v : s.Value) : (g.set s v).get s' = g.get s' := by
  cases s <;> cases s' <;> first | rfl | exact absurd rfl h

@[simp] theorem get_nothing (s : Setting) : nothing.get s = none := by
  cases s <;> rfl

theorem has_eq (g : Given) (s : Setting) : g.has s = (g.get s).isSome := by
  cases s <;> rfl

theorem take_eq (g : Given) (s : Setting) (text : String) :
    g.take s text = (s.parse text).map fun v => g.set s (s.grown (g.get s) v) := by
  cases s with
  | sysPath =>
    show (if text = "" then Except.error _ else _) = Except.map _ (if text = "" then _ else _)
    split_ifs <;> rfl
  | _ => rfl

/-- Taking a text changes the value of its own setting and no other. -/
theorem take_eq_ok_iff {text : String} :
    g.take s text = .ok g' ↔
      ∃ v, s.Writes text v ∧ g'.get s = some (s.grown (g.get s) v) ∧
        ∀ s' ≠ s, g'.get s' = g.get s' := by
  rw [take_eq]
  constructor
  · intro h
    cases hparse : s.parse text with
    | error c =>
      rw [hparse] at h
      cases h
    | ok v =>
      rw [hparse] at h
      obtain rfl := Except.ok.inj h
      exact ⟨v, Setting.parse_eq_ok_iff.mp hparse, get_set_self g s _,
        fun s' hs' => get_set_of_ne hs' g _⟩
  · rintro ⟨v, hv, hself, hother⟩
    rw [Setting.parse_eq_ok_iff.mpr hv]
    show Except.ok (g.set s (s.grown (g.get s) v)) = .ok g'
    congr 1
    apply ext_get
    intro s'
    by_cases hs' : s' = s
    · subst hs'
      rw [get_set_self, hself]
    · rw [get_set_of_ne hs', hother s' hs']

/-- On the command line a text is taken where nothing is given yet, or by a list. -/
theorem occur_eq_ok_iff {text : String} :
    g.occur s text = .ok g' ↔ (g.get s = none ∨ s.isList = true) ∧ g.take s text = .ok g' := by
  rw [occur, has_eq]
  cases g.get s <;> cases s.isList <;> simp

/-! ### Occurrences -/

/-- Takes texts on the command line from left to right. -/
def occurAll (g : Given) : List Occurrence → Except Complaint Given
  | [] => .ok g
  | o :: os => (g.occur o.1 o.2).bind fun g => g.occurAll os

theorem occurAll_append (g : Given) (os os' : List Occurrence) :
    g.occurAll (os ++ os') = (g.occurAll os).bind fun g => g.occurAll os' := by
  induction os generalizing g with
  | nil => rfl
  | cons o os ih =>
    rw [List.cons_append, occurAll, occurAll]
    cases g.occur o.1 o.2 with
    | error c => rfl
    | ok g => exact ih g

/-- What is given in the end is for each setting what its own texts lead to, however they stand
among those of the others. -/
theorem occurAll_eq_ok_iff {os : List Occurrence} :
    g.occurAll os = .ok g' ↔ ∀ s : Setting, s.Takes (g.get s) (textsOf s os) (g'.get s) := by
  induction os generalizing g with
  | nil =>
    rw [occurAll, Except.ok.injEq]
    constructor
    · rintro rfl s
      rfl
    · intro h
      exact ext_get fun s => (h s).symm
  | cons o os ih =>
    obtain ⟨s, text⟩ := o
    constructor
    · intro h
      rw [occurAll] at h
      obtain ⟨g₁, hoccur, hrest⟩ := bind_eq_ok_iff.mp h
      obtain ⟨hfree, htake⟩ := occur_eq_ok_iff.mp hoccur
      obtain ⟨v, hv, hself, hother⟩ := take_eq_ok_iff.mp htake
      have htakes := ih.mp hrest
      intro s'
      by_cases hs' : s' = s
      · subst hs'
        rw [textsOf_cons_self]
        exact ⟨hfree, v, hv, hself ▸ htakes s'⟩
      · rw [textsOf_cons_of_ne hs', ← hother s' hs']
        exact htakes s'
    · intro h
      have hs := h s
      rw [textsOf_cons_self] at hs
      obtain ⟨hfree, v, hv, hrest⟩ := hs
      have htake : g.take s text = .ok (g.set s (s.grown (g.get s) v)) :=
        take_eq_ok_iff.mpr
          ⟨v, hv, get_set_self g s _, fun s' hs' => get_set_of_ne hs' g _⟩
      rw [occurAll, occur_eq_ok_iff.mpr ⟨hfree, htake⟩]
      refine ih.mpr fun s' => ?_
      by_cases hs' : s' = s
      · subst hs'
        rw [get_set_self]
        exact hrest
      · rw [get_set_of_ne hs', ← textsOf_cons_of_ne hs']
        exact h s'

end Given

/-- What a setting is set to; only the agent's name may be none. -/
def Settings.value? (c : Settings) : (s : Setting) → Option s.Value
  | .agentId => c.agentId
  | .sysPath => some c.sysPath
  | .collectInterval => some c.collectInterval
  | .collectTimeout => some c.collectTimeout
  | .enable => some c.enable
  | .disable => some c.disable
  | .format => some c.format
  | .jsonLogs => some c.jsonLogs
  | .once => some c.once

theorem Settings.ext_value {c c' : Settings} (h : ∀ s, c.value? s = c'.value? s) : c = c' := by
  cases c
  cases c'
  simp only [mk.injEq]
  exact ⟨h .agentId, Option.some.inj (h .sysPath), Option.some.inj (h .collectInterval),
    Option.some.inj (h .collectTimeout), Option.some.inj (h .enable), Option.some.inj (h .disable),
    Option.some.inj (h .format), Option.some.inj (h .jsonLogs), Option.some.inj (h .once)⟩

/-- A setting has the value that is given, else its default. -/
theorem Given.value?_settings (g : Given) (s : Setting) :
    g.settings.value? s = (g.get s).or (Settings.default.value? s) := by
  have hor {α : Type} (o : Option α) (a : α) : some (o.getD a) = o.or (some a) := by
    cases o <;> rfl
  cases s with
  | agentId => exact Option.or_none.symm
  | _ => exact hor _ _

end CardTelemetry
