import CardTelemetry.Proofs.Sysfs.Attribute
import CardTelemetry.Proofs.Text.Lines

/-!
# The driver that a text names

Of the lines of a text that begin as a driver's do, without the blanks around them, the first one
counts and the others do not. So it makes no difference whether blanks around the whole text are
taken off before, nor what comes after that line.
-/

namespace CardTelemetry.Sysfs

open Files (Path View)
open Text (EndsBare EndsLine IsLines Trims)

/-- The first line of a text that begins as a driver's does, without the blanks around it, goes on
with this driver. -/
def NamesDriver (text d : String) : Prop :=
  ∃ earlier line later, Text.lines text.toList = earlier ++ line :: later ∧
    Text.trim line = driverMark ++ d.toList ∧ ∀ l ∈ earlier, ¬ driverMark <+: Text.trim l

/-- A line that begins as a driver's does, without the blanks around it. -/
def IsDriverLine (line : List Char) : Prop := ∃ rest, Trims line (driverMark ++ rest)

/-- A text that can be a driver's in a line: one without a newline and with no blank at its end. -/
structure FitsLine (d : List Char) : Prop where
  newline : '\n' ∉ d
  endsBare : EndsBare d

variable {text d : String}

/-! ### The first driver's line -/

theorem isPrefixOf?_driverMark_eq_none_iff {line : List Char} :
    driverMark.isPrefixOf? line = none ↔ ¬ driverMark <+: line := by
  rw [Option.eq_none_iff_forall_ne_some, List.IsPrefix, not_exists]
  exact forall_congr' fun rest => not_congr List.isPrefixOf?_eq_some_iff_append_eq

theorem namedDriver?_eq_some_iff :
    namedDriver? text = some d ↔ NamesDriver text d := by
  rw [namedDriver?, Option.map_eq_some_iff]
  simp only [List.findSome?_eq_some_iff, isPrefixOf?_driverMark_eq_none_iff,
    List.isPrefixOf?_eq_some_iff_append_eq]
  constructor
  · intro h
    obtain ⟨rest, ⟨earlier, line, later, hlines, hline, hearlier⟩, rfl⟩ := h
    exact ⟨earlier, line, later, hlines, by rw [String.toList_ofList, hline], hearlier⟩
  · intro h
    obtain ⟨earlier, line, later, hlines, hline, hearlier⟩ := h
    exact ⟨d.toList, ⟨earlier, line, later, hlines, hline.symm, hearlier⟩, String.ofList_toList⟩

theorem namedDriver?_eq_none_iff :
    namedDriver? text = none ↔ ∀ l ∈ Text.lines text.toList, ¬ driverMark <+: Text.trim l := by
  rw [namedDriver?, Option.map_eq_none_iff, List.findSome?_eq_none_iff]
  exact forall₂_congr fun l _ => isPrefixOf?_driverMark_eq_none_iff

/-- Blanks around the whole text do not change the driver that it names. -/
theorem namedDriver?_trimmed (text : String) : namedDriver? (Text.trimmed text) = namedDriver? text := by
  have hnil : driverMark.isPrefixOf? ([] : List Char) = none := rfl
  rw [namedDriver?, Text.trimmed, String.toList_ofList, Text.findSome?_lines_trim hnil, namedDriver?]

/-- The text of a `uevent` tells its driver as if it were not trimmed before. -/
theorem listedDriver_of_text {v : View} {device : Path}
    (h : v.text (device.join (Path.ofString "uevent")) = .ok text) :
    listedDriver v device = .ok (namedDriver? text) := by
  rw [listedDriver, required_of_text h, Except.map, Option.bind_some, namedDriver?_trimmed]

/-- The driver that a device's `uevent` names is the one that its text names. -/
theorem ueventDriver?_eq_some_iff {v : View} {device : Path} :
    ueventDriver? v device = some d ↔
      ∃ s, v.text (device.join (Path.ofString "uevent")) = .ok s ∧ NamesDriver s d := by
  rw [ueventDriver?, Option.bind_eq_some_iff]
  simp only [attributeAt_eq_some_iff, ← namedDriver?_eq_some_iff]
  constructor
  · intro h
    obtain ⟨_, ⟨s, hs, rfl⟩, hnamed⟩ := h
    rw [namedDriver?_trimmed] at hnamed
    exact ⟨s, hs, hnamed⟩
  · intro h
    obtain ⟨s, hs, hnamed⟩ := h
    rw [← namedDriver?_trimmed] at hnamed
    exact ⟨_, ⟨s, hs, rfl⟩, hnamed⟩

/-! ### Lines without functions -/

theorem isDriverLine_iff {line : List Char} : IsDriverLine line ↔ driverMark <+: Text.trim line :=
  exists_congr fun _ => Text.trims_iff.trans eq_comm

theorem isDriverLine_dropReturn_iff {line : List Char} :
    IsDriverLine (Text.dropReturn line) ↔ IsDriverLine line := by
  rw [isDriverLine_iff, Text.trim_dropReturn, isDriverLine_iff]

theorem namesDriver_iff :
    NamesDriver text d ↔ ∃ earlier line later, IsLines text.toList (earlier ++ line :: later) ∧
      Trims line (driverMark ++ d.toList) ∧ ∀ l ∈ earlier, ¬ IsDriverLine l := by
  simp only [NamesDriver, Text.isLines_iff, Text.trims_iff, isDriverLine_iff]

/-! ### What can be named -/

theorem NamesDriver.fitsLine (h : NamesDriver text d) : FitsLine d.toList := by
  obtain ⟨earlier, line, later, hlines, hline, -⟩ := namesDriver_iff.mp h
  constructor
  · intro hmem
    have hnewline : '\n' ∈ line := hline.mem (List.mem_append_right _ hmem)
    exact hlines.newline_not_mem line (by simp) hnewline
  · intro c hc
    apply hline.endsBare c
    rw [List.getLast?_append, hc, Option.some_or]

/-- A driver's line as it is written names its driver, if no line before it does. -/
theorem namesDriver_of_written {earlier : List (List Char)} {after : List Char}
    (hearlier : ∀ l ∈ earlier, '\n' ∉ l ∧ ¬ IsDriverLine l) (hd : FitsLine d.toList)
    (hafter : EndsLine after)
    (htext : text.toList =
      earlier.flatMap (fun l => l ++ ['\n']) ++ (driverMark ++ d.toList ++ after)) :
    NamesDriver text d := by
  have hnewline : '\n' ∉ driverMark ++ d.toList := by
    rw [List.mem_append, not_or]
    exact ⟨by decide, hd.newline⟩
  have hends : EndsBare (driverMark ++ d.toList) := by
    intro c hc
    rw [List.getLast?_append, Option.or_eq_some_iff] at hc
    obtain hc | ⟨-, hc⟩ := hc
    · exact hd.endsBare c hc
    · obtain rfl : '=' = c := Option.some.inj hc
      decide
  have hstarts : Text.StartsBare (driverMark ++ d.toList) := by
    intro c hc
    obtain rfl : 'D' = c := Option.some.inj hc
    decide
  have hne : driverMark ++ d.toList ≠ [] := List.append_ne_nil_of_left_ne_nil (by decide) _
  obtain ⟨later, hlines⟩ := Text.exists_lines_append hnewline hne hends hafter
  refine ⟨earlier.map Text.dropReturn, driverMark ++ d.toList, later, ?_, ?_, ?_⟩
  · rw [htext, Text.lines_unlines_append fun l hl => (hearlier l hl).1, hlines]
  · exact Text.trims_iff.mp ⟨⟨[], [], by simp, by simp, by simp⟩, hstarts, hends⟩
  · intro l hl
    obtain ⟨l, hmem, rfl⟩ := List.mem_map.mp hl
    rw [← isDriverLine_iff, isDriverLine_dropReturn_iff]
    exact (hearlier l hmem).2

/-- **A text names the driver of its first driver's line.** -/
theorem first_driver_line (text : String) :
    (∀ d, namedDriver? text = some d ↔
        ∃ earlier line later, IsLines text.toList (earlier ++ line :: later) ∧
          Trims line (driverMark ++ d.toList) ∧ ∀ l ∈ earlier, ¬ IsDriverLine l) ∧
      (∀ d, namedDriver? text = some d → FitsLine d.toList) ∧
      (∀ stripped : String, Trims text.toList stripped.toList →
        namedDriver? stripped = namedDriver? text) ∧
      (∀ (v : View) (device : Path), v.text (device.join (Path.ofString "uevent")) = .ok text →
        listedDriver v device = .ok (namedDriver? text)) ∧
      ∀ (earlier : List (List Char)) (d : String) (after : List Char),
        (∀ l ∈ earlier, '\n' ∉ l ∧ ¬ IsDriverLine l) → FitsLine d.toList → EndsLine after →
        text.toList =
          earlier.flatMap (fun l => l ++ ['\n']) ++ (driverMark ++ d.toList ++ after) →
        namedDriver? text = some d := by
  refine ⟨?_, ?_, ?_, ?_, ?_⟩
  · intro d
    rw [namedDriver?_eq_some_iff, namesDriver_iff]
  · intro d hd
    exact (namedDriver?_eq_some_iff.mp hd).fitsLine
  · intro stripped hstripped
    have htrimmed : Text.trimmed text = stripped := by
      rw [Text.trimmed, hstripped.trim_eq, String.ofList_toList]
    rw [← htrimmed, namedDriver?_trimmed]
  · exact fun v device htext => listedDriver_of_text htext
  · intro earlier d after hearlier hd hafter htext
    exact namedDriver?_eq_some_iff.mpr (namesDriver_of_written hearlier hd hafter htext)

/-- Lines that only look like a driver's do not count, nor does a second driver. -/
theorem first_driver_line_lookalikes :
    namedDriver? "DRIVERS=vfio\r\n\u00a0ID=DRIVER=i915\nDRIVER=amd gpu\r\n DRIVER=radeon\n" =
      some "amd gpu" := by
  obtain ⟨-, -, -, -, hwritten⟩ := first_driver_line
    "DRIVERS=vfio\r\n\u00a0ID=DRIVER=i915\nDRIVER=amd gpu\r\n DRIVER=radeon\n"
  have hearlier : ∀ l ∈ ["DRIVERS=vfio\r".toList, "\u00a0ID=DRIVER=i915".toList],
      '\n' ∉ l ∧ ¬ IsDriverLine l := by
    simp only [isDriverLine_iff]
    decide
  have hd : FitsLine "amd gpu".toList := by
    refine ⟨by decide, ?_⟩
    intro c hc
    obtain rfl : 'u' = c := Option.some.inj hc
    decide
  have hafter : EndsLine "\r\n DRIVER=radeon\n".toList := .inr ⟨_, .inr rfl⟩
  exact hwritten _ "amd gpu" _ hearlier hd hafter (by cbv)

end CardTelemetry.Sysfs
