import CardTelemetry.Text.Blank
import Mathlib.Data.List.DropRight

/-!
# Blanks at the ends of a text

What is left of a text without the blanks at its ends is known by where it stands: between blanks,
and with none at its own ends. There is one such part, though for a text of blanks it is empty and
stands anywhere.
-/

namespace CardTelemetry.Text

/-- A text does not begin with a blank. -/
def StartsBare (s : List Char) : Prop := ∀ c, s.head? = some c → isBlank c = false

/-- A text does not end with a blank. -/
def EndsBare (s : List Char) : Prop := ∀ c, s.getLast? = some c → isBlank c = false

/-- A text is what another is between the blanks at its ends. -/
structure Trims (s text : List Char) : Prop where
  between : ∃ before after, s = before ++ (text ++ after) ∧ (∀ c ∈ before, isBlank c = true) ∧
    ∀ c ∈ after, isBlank c = true
  startsBare : StartsBare text
  endsBare : EndsBare text

theorem isBlank_of_isDigit {c : Char} (h : c.isDigit = true) : isBlank c = false := by
  have hrange : 48 ≤ c.toNat ∧ c.toNat ≤ 57 := by
    simpa [Char.isDigit, UInt32.le_iff_toNat_le] using h
  rw [← Bool.not_eq_true]
  simp only [isBlank, blankRanges, List.any_cons, List.any_nil, Bool.or_eq_true,
    Bool.and_eq_true, decide_eq_true_eq, Bool.false_eq_true, or_false]
  omega

/-! ### One more blank -/

section Blank

variable {c : Char} (hc : isBlank c = true)

include hc

theorem trimStart_cons_of_blank (s : List Char) : trimStart (c :: s) = trimStart s :=
  List.dropWhile_cons_of_pos hc

theorem trimEnd_concat_of_blank (s : List Char) : trimEnd (s ++ [c]) = trimEnd s :=
  List.rdropWhile_concat_pos isBlank s c hc

theorem trim_cons_of_blank (s : List Char) : trim (c :: s) = trim s := by
  rw [trim, trimStart_cons_of_blank hc, trim]

theorem trim_concat_of_blank (s : List Char) : trim (s ++ [c]) = trim s := by
  have hempty : trimStart [c] = [] := trimStart_cons_of_blank hc []
  have hstart : trimStart (s ++ [c]) = if (trimStart s).isEmpty then [] else trimStart s ++ [c] := by
    rw [trimStart, List.dropWhile_append]
    exact congrArg (fun r => if (trimStart s).isEmpty then r else trimStart s ++ [c]) hempty
  rw [trim, hstart, trim]
  cases hs : trimStart s with
  | nil => rfl
  | cons d rest => exact trimEnd_concat_of_blank hc (d :: rest)

end Blank

/-! ### Blanks at the ends -/

theorem trim_append_left {before : List Char} (h : ∀ c ∈ before, isBlank c = true) (s : List Char) :
    trim (before ++ s) = trim s := by
  rw [trim, trimStart, List.dropWhile_append_of_pos h, trim, trimStart]

theorem trim_append_right {after : List Char} (h : ∀ c ∈ after, isBlank c = true) (s : List Char) :
    trim (s ++ after) = trim s := by
  induction after using List.reverseRecOn with
  | nil => rw [List.append_nil]
  | append_singleton after c ih =>
    have hc : isBlank c = true := h c (by simp)
    rw [← List.append_assoc, trim_concat_of_blank hc, ih fun d hd => h d (List.mem_append_left _ hd)]

theorem trimStart_eq_self {s : List Char} (h : StartsBare s) : trimStart s = s := by
  cases s with
  | nil => rfl
  | cons c rest => exact List.dropWhile_cons_of_neg (by simp [h c rfl])

theorem trimEnd_eq_self {s : List Char} (h : EndsBare s) : trimEnd s = s := by
  refine List.rdropWhile_eq_self_iff.mpr fun hne => ?_
  rw [h _ (List.getLast?_eq_some_getLast hne)]
  decide

theorem startsBare_trimStart (s : List Char) : StartsBare (trimStart s) := by
  intro c hc
  have hhead := List.head?_dropWhile_not isBlank s
  rw [show (s.dropWhile isBlank).head? = some c from hc] at hhead
  exact hhead

theorem endsBare_trimEnd (s : List Char) : EndsBare (trimEnd s) := by
  intro c hc
  have hne : s.rdropWhile isBlank ≠ [] := by
    intro hnil
    rw [show trimEnd s = [] from hnil] at hc
    cases hc
  have hlast := List.rdropWhile_last_not isBlank s hne
  rw [show trimEnd s = s.rdropWhile isBlank from rfl, List.getLast?_eq_some_getLast hne] at hc
  rw [Option.some.inj hc] at hlast
  simpa using hlast

theorem StartsBare.of_append {text rest : List Char} (h : StartsBare (text ++ rest)) :
    StartsBare text := by
  intro c hc
  apply h c
  rw [List.head?_append, hc, Option.some_or]

theorem trims_trim (s : List Char) : Trims s (trim s) := by
  have hend : trim s ++ (trimStart s).rtakeWhile isBlank = trimStart s :=
    List.rdropWhile_append_rtakeWhile
  refine ⟨⟨s.takeWhile isBlank, (trimStart s).rtakeWhile isBlank, ?_, ?_, ?_⟩, ?_, ?_⟩
  · rw [hend]
    exact List.takeWhile_append_dropWhile.symm
  · exact fun c hc => List.mem_takeWhile_imp hc
  · exact fun c hc => List.mem_rtakeWhile_imp hc
  · have hstart : StartsBare (trim s ++ (trimStart s).rtakeWhile isBlank) :=
      hend.symm ▸ startsBare_trimStart s
    exact hstart.of_append
  · exact endsBare_trimEnd _

theorem Trims.trim_eq {s text : List Char} (h : Trims s text) : trim s = text := by
  obtain ⟨⟨before, after, rfl, hbefore, hafter⟩, hstart, hend⟩ := h
  rw [trim_append_left hbefore, trim_append_right hafter, trim, trimStart_eq_self hstart,
    trimEnd_eq_self hend]

theorem Trims.mem {s text : List Char} (h : Trims s text) {c : Char} (hc : c ∈ text) : c ∈ s := by
  obtain ⟨⟨before, after, rfl, -⟩, -⟩ := h
  exact List.mem_append_right _ (List.mem_append_left _ hc)

/-- Trimming leaves what stands between the blanks, and nothing else does. -/
theorem trims_iff {s text : List Char} : Trims s text ↔ trim s = text :=
  ⟨Trims.trim_eq, fun h => h ▸ trims_trim s⟩

theorem trims_toList_iff {s text : String} : Trims s.toList text.toList ↔ text = trimmed s := by
  rw [trims_iff, trimmed]
  constructor
  · intro h
    rw [h, String.ofList_toList]
  · intro h
    rw [h, String.toList_ofList]

end CardTelemetry.Text
