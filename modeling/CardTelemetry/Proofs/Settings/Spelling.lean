import CardTelemetry.Settings.CommandLine
import CardTelemetry.Proofs.Settings.Value
import Mathlib.Data.List.TakeWhile

/-!
# How options are spelled

An option stands in one argument with its text behind an equals sign, or in an argument of its own
with the text in the next one; a switch stands alone. A scan of arguments that spell options takes
their texts from left to right, and what a scan takes without a complaint spells options.
-/

namespace CardTelemetry

/-- An option alone, or with a text behind an equals sign. -/
def Setting.argument (s : Setting) : Option String → String
  | none => "--" ++ s.option
  | some text => "--" ++ s.option ++ "=" ++ text

namespace CommandLine

/-- A text that may be an argument of its own. -/
def StandsAlone (text : String) : Prop := text.toList.head? ≠ some '-' ∨ text = "-"

/-- Arguments spell options with their texts, in this order. -/
inductive Spelled : List Occurrence → List String → Prop
  | nil : Spelled [] []
  /-- Nothing follows two dashes. -/
  | separator : Spelled [] ["--"]
  | switch {s : Setting} {os : List Occurrence} {args : List String} (h : s.isSwitch = true)
      (rest : Spelled os args) : Spelled ((s, "true") :: os) (s.argument none :: args)
  | attached {s : Setting} {text : String} {os : List Occurrence} {args : List String}
      (h : s.isSwitch = false) (rest : Spelled os args) :
      Spelled ((s, text) :: os) (s.argument (some text) :: args)
  | apart {s : Setting} {text : String} {os : List Occurrence} {args : List String}
      (h : s.isSwitch = false) (alone : StandsAlone text) (rest : Spelled os args) :
      Spelled ((s, text) :: os) (s.argument none :: text :: args)

/-! ### Single arguments -/

/-- What stands behind an option's name. -/
def behind : Option String → List Char
  | none => []
  | some text => '=' :: text.toList

theorem toList_argument (s : Setting) (value : Option String) :
    (s.argument value).toList = '-' :: '-' :: (s.option.toList ++ behind value) := by
  cases value <;> simp [Setting.argument, behind]

theorem splitValue_eq_iff {text : List Char} {name : String} {value : Option String} :
    splitValue text = (name, value) ↔ '=' ∉ name.toList ∧ text = name.toList ++ behind value := by
  constructor
  · intro h
    have hname : '=' ∉ text.takeWhile fun c => c != '=' := by
      intro hmem
      simpa using List.mem_takeWhile_imp hmem
    have htext := List.takeWhile_append_dropWhile (p := fun c => c != '=') (l := text)
    unfold splitValue at h
    split at h
    · rename_i hrest
      obtain ⟨rfl, rfl⟩ := Prod.mk.inj h
      rw [hrest, List.append_nil] at htext
      rw [String.toList_ofList, behind, List.append_nil]
      exact ⟨hname, htext.symm⟩
    · rename_i c rest hrest
      obtain ⟨rfl, rfl⟩ := Prod.mk.inj h
      have hc : c = '=' := by
        have := List.head?_dropWhile_not (fun c => c != '=') text
        rw [hrest] at this
        simpa using this
      subst hc
      rw [String.toList_ofList, behind, String.toList_ofList, ← hrest]
      exact ⟨hname, htext.symm⟩
  · rintro ⟨hname, rfl⟩
    have hbefore : ∀ c ∈ name.toList, (c != '=') = true := by
      intro c hc
      rw [bne_iff_ne]
      rintro rfl
      exact hname hc
    unfold splitValue
    rw [List.takeWhile_append_of_pos hbefore, List.dropWhile_append_of_pos hbefore]
    cases value <;> simp [behind]

theorem find?_flag_eq_iff {name : String} {s : Setting} :
    (Flag.all.find? fun f => f.name = name) = some (.setting s) ↔ name = s.option := by
  constructor
  · intro h
    have hname := List.find?_some h
    exact (of_decide_eq_true hname).symm
  · rintro rfl
    cases s <;> rfl

theorem classifyLong_eq_option_iff {text : List Char} {s : Setting} {value : Option String} :
    classifyLong text = .option s value ↔ splitValue text = (s.option, value) := by
  unfold classifyLong
  obtain ⟨name, value'⟩ := splitValue text
  dsimp only
  rw [Prod.mk.injEq, ← find?_flag_eq_iff]
  generalize (Flag.all.find? fun f => f.name = name) = flag
  cases flag with
  | none => simp
  | some f => cases f <;> cases value' <;> simp

theorem classifyLong_ne (text : List Char) :
    classifyLong text ≠ .word ∧ classifyLong text ≠ .separator := by
  unfold classifyLong
  obtain ⟨name, value⟩ := splitValue text
  dsimp only
  split <;> simp

theorem not_mem_option (s : Setting) : '=' ∉ s.option.toList := by
  cases s <;> decide

/-- An argument is an option exactly where it is written so. -/
theorem classify_eq_option_iff {argument : String} {s : Setting} {value : Option String} :
    classify argument = .option s value ↔ argument = s.argument value := by
  have hlong : classifyLong (s.option.toList ++ behind value) = .option s value :=
    classifyLong_eq_option_iff.mpr (splitValue_eq_iff.mpr ⟨not_mem_option s, rfl⟩)
  constructor
  · intro h
    unfold classify at h
    split at h
    · cases h
    · rename_i rest hargument
      obtain ⟨-, hrest⟩ := splitValue_eq_iff.mp (classifyLong_eq_option_iff.mp h)
      rw [← String.toList_inj, toList_argument, hargument, hrest]
    all_goals cases h
  · rintro rfl
    obtain ⟨c, name, hname⟩ : ∃ c name, s.option.toList = c :: name := by
      cases s <;> exact ⟨_, _, rfl⟩
    rw [hname] at hlong
    simp only [classify, toList_argument, hname]
    exact hlong

theorem classify_eq_word_iff {argument : String} :
    classify argument = .word ↔ StandsAlone argument := by
  have hdash : argument = "-" ↔ argument.toList = ['-'] := by
    rw [← String.toList_inj]
    rfl
  rw [StandsAlone, hdash]
  unfold classify
  split
  case h_6 _ hnot =>
    refine iff_of_true rfl (or_iff_not_imp_left.mpr fun hhead => ?_)
    obtain ⟨rest, hrest⟩ := List.head?_eq_some_iff.mp (not_not.mp hhead)
    cases rest with
    | nil => exact hrest
    | cons c rest => exact absurd hrest (hnot c rest)
  all_goals simp_all [classifyLong_ne]

theorem classify_eq_separator_iff {argument : String} :
    classify argument = .separator ↔ argument = "--" := by
  have hdashes : argument = "--" ↔ argument.toList = ['-', '-'] := by
    rw [← String.toList_inj]
    rfl
  rw [hdashes]
  unfold classify
  split <;> simp_all [classifyLong_ne]

/-! ### Scans -/

namespace Progress

variable {p p' : Progress} {s : Setting} {text : String}

/-- An option has started and its text has not come yet. -/
def Awaits (p : Progress) (s : Setting) : Prop := p.pending = some (s, none)

theorem not_awaits (h : p.pending = none) (s : Setting) : ¬ p.Awaits s := by
  simp [Awaits, h]

theorem settle_of_pending (h : p.pending = none) : p.settle = .ok p := by
  simp [settle, h]

theorem pending_of_occur (h : p.occur s text = .ok p') : p'.pending = none := by
  unfold occur at h
  split at h
  · obtain rfl := Except.ok.inj h
    rfl
  · cases h

theorem not_awaits_of_settle (h : p.settle = .ok p') (s : Setting) : ¬ p.Awaits s := by
  intro hawaits
  rw [Awaits] at hawaits
  rw [settle, hawaits] at h
  cases h

/-- Takes the texts of options from left to right. -/
def occurAll (p : Progress) : List Occurrence → Except Halt Progress
  | [] => .ok p
  | o :: os => (p.occur o.1 o.2).bind fun p => p.occurAll os

/-- What is given does not depend on what else is kept of the arguments. -/
theorem map_given_occurAll (os : List Occurrence) (p : Progress) :
    (p.occurAll os).map given = (p.given.occurAll os).mapError Halt.complaint := by
  induction os generalizing p with
  | nil => rfl
  | cons o os ih =>
    rw [occurAll, Given.occurAll, occur]
    cases p.given.occur o.1 o.2 with
    | error c => rfl
    | ok g => exact ih _

end Progress

variable {os : List Occurrence} {args : List String} {p p' : Progress}

/-- Options are taken as they are spelled, after the text that is still to be checked. -/
theorem scan_of_spelled (h : Spelled os args) (hp : ∀ s, ¬ p.Awaits s) :
    scan p args = p.settle.bind fun p => p.occurAll os := by
  have hbind (x : Except Halt Progress) : x = x.bind .ok := by
    cases x <;> rfl
  induction h generalizing p with
  | nil => exact hbind p.settle
  | separator =>
    rw [scan, classify_eq_separator_iff.mpr rfl]
    exact hbind p.settle
  | @switch s os args hs _ ih =>
    rw [scan, classify_eq_option_iff.mpr rfl]
    refine bind_congr_ok fun p _ => ?_
    rw [if_pos hs, Progress.occurAll]
    refine bind_congr_ok fun p hoccur => ?_
    have hpending := Progress.pending_of_occur hoccur
    rw [ih (Progress.not_awaits hpending), Progress.settle_of_pending hpending]
    rfl
  | @attached s text os args hs _ ih =>
    rw [scan, classify_eq_option_iff.mpr rfl]
    simp only [hs]
    refine bind_congr_ok fun p _ => ?_
    rw [Progress.occurAll]
    refine bind_congr_ok fun p hoccur => ?_
    have hpending := Progress.pending_of_occur hoccur
    rw [ih (Progress.not_awaits hpending), Progress.settle_of_pending hpending]
    rfl
  | @apart s text os args hs halone _ ih =>
    rw [scan, classify_eq_option_iff.mpr rfl]
    refine bind_congr_ok fun p _ => ?_
    rw [if_neg (by simp [hs]), scan, classify_eq_word_iff.mpr halone]
    show scan (p.await s (some text)) args = _
    rw [ih (by simp [Progress.Awaits, Progress.await])]
    rfl

/-- What is scanned without a complaint spells options, but for a text that is awaited. -/
theorem spelled_of_scan (h : scan p args = .ok p') :
    ((∀ s, ¬ p.Awaits s) → ∃ os, Spelled os args) ∧
      ∀ s, p.Awaits s →
        ∃ text rest os, args = text :: rest ∧ StandsAlone text ∧ Spelled os rest := by
  induction args generalizing p with
  | nil =>
    refine ⟨fun _ => ⟨[], .nil⟩, fun s hs => ?_⟩
    exact absurd hs (Progress.not_awaits_of_settle h s)
  | cons argument rest ih =>
    rw [scan] at h
    cases hc : classify argument with
    | separator =>
      rw [hc] at h
      obtain rfl := classify_eq_separator_iff.mp hc
      cases rest with
      | nil =>
        refine ⟨fun _ => ⟨[], .separator⟩, fun s hs => ?_⟩
        exact absurd hs (Progress.not_awaits_of_settle h s)
      | cons word rest => cases h
    | help long =>
      rw [hc] at h
      obtain ⟨_, -, h⟩ := bind_eq_ok_iff.mp h
      cases h
    | version =>
      rw [hc] at h
      obtain ⟨_, -, h⟩ := bind_eq_ok_iff.mp h
      cases h
    | option s value =>
      rw [hc] at h
      obtain rfl := classify_eq_option_iff.mp hc
      -- an option is no text, so nothing was awaited
      suffices hspelled : (∃ q, p.settle = .ok q) ∧ ∃ os, Spelled os (s.argument value :: rest) by
        obtain ⟨⟨q, hq⟩, hspelled⟩ := hspelled
        exact ⟨fun _ => hspelled, fun s hs => absurd hs (Progress.not_awaits_of_settle hq s)⟩
      cases value with
      | none =>
        obtain ⟨q, hq, h⟩ := bind_eq_ok_iff.mp h
        refine ⟨⟨q, hq⟩, ?_⟩
        split_ifs at h with hs
        · obtain ⟨r, hr, h⟩ := bind_eq_ok_iff.mp h
          obtain ⟨os, hos⟩ := (ih h).1 (Progress.not_awaits (Progress.pending_of_occur hr))
          exact ⟨_, .switch hs hos⟩
        · obtain ⟨text, rest, os, rfl, halone, hos⟩ := (ih h).2 s rfl
          exact ⟨_, .apart (by simpa using hs) halone hos⟩
      | some text =>
        simp only at h
        split_ifs at h with hs
        obtain ⟨q, hq, h⟩ := bind_eq_ok_iff.mp h
        refine ⟨⟨q, hq⟩, ?_⟩
        obtain ⟨r, hr, h⟩ := bind_eq_ok_iff.mp h
        obtain ⟨os, hos⟩ := (ih h).1 (Progress.not_awaits (Progress.pending_of_occur hr))
        exact ⟨_, .attached (by simpa using hs) hos⟩
    | overfull flag value =>
      rw [hc] at h
      cases h
    | unknownLong name =>
      rw [hc] at h
      cases h
    | unknownShort shown =>
      rw [hc] at h
      cases h
    | word =>
      rw [hc] at h
      simp only at h
      split at h
      · rename_i s hpending
        refine ⟨fun hp => absurd hpending (hp s), fun s' _ => ?_⟩
        obtain ⟨os, hos⟩ := (ih h).1 (by simp [Progress.Awaits, Progress.await])
        exact ⟨argument, rest, os, rfl, classify_eq_word_iff.mp hc, hos⟩
      · cases h

end CommandLine

end CardTelemetry
