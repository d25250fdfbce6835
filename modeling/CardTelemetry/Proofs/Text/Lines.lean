import CardTelemetry.Proofs.Text.Blank
import CardTelemetry.Text.Lines
import Mathlib.Data.List.Induction

/-!
# Lines, and lines without the blanks around them

A text has exactly the lines that the rule for the ends of lines gives it. What is looked for in
lines without the blanks around them can as well be looked for in what stands between newlines,
since a carriage return is blank; and blanks around the whole text, which may be lines of their own,
do not count either. There, what an empty line tells is assumed to be nothing.
-/

namespace CardTelemetry.Text

/-! ### Pieces -/

theorem not_mem_of_mem_splitOn {α : Type} [DecidableEq α] {a : α} {as : List α} :
    ∀ l ∈ as.splitOn a, a ∉ l := by
  induction as with
  | nil => simp
  | cons b bs ih =>
    rw [List.splitOn_cons_eq_if_modifyHead]
    by_cases hb : b = a
    · rw [if_pos (beq_iff_eq.mpr hb)]
      exact List.forall_mem_cons.mpr ⟨List.not_mem_nil, ih⟩
    · rw [if_neg (by simpa using hb)]
      obtain ⟨l, ls, hsplit⟩ := List.exists_cons_of_ne_nil (List.splitOn_ne_nil a bs)
      rw [hsplit] at ih ⊢
      obtain ⟨hl, hls⟩ := List.forall_mem_cons.mp ih
      refine List.forall_mem_cons.mpr ⟨?_, hls⟩
      rw [List.mem_cons, not_or]
      exact ⟨Ne.symm hb, hl⟩

theorem exists_splitOn_eq (s : List Char) : ∃ init last, s.splitOn '\n' = init ++ [last] :=
  ⟨_, _, (List.dropLast_concat_getLast (List.splitOn_ne_nil '\n' s)).symm⟩

/-- The lines of a text are the pieces between its newlines, but for a last piece that is empty. -/
theorem lines_eq {s : List Char} {init : List (List Char)} {last : List Char}
    (h : s.splitOn '\n' = init ++ [last]) :
    lines s = init.map dropReturn ++ if last = [] then [] else [last] := by
  simp only [lines, h, List.dropLast_concat, List.getLast?_concat]
  cases last with
  | nil => simp
  | cons c rest => simp

/-! ### Lines -/

/-- The lines of a text. A line ends at a newline, and a carriage return before that belongs to the
ending; the last one may have no ending if it is not empty. -/
inductive IsLines : List Char → List (List Char) → Prop
  | none : IsLines [] []
  | unended {line : List Char} (hline : '\n' ∉ line) (hne : line ≠ []) : IsLines line [line]
  | newline {line rest : List Char} {ls : List (List Char)} (hline : '\n' ∉ line)
      (hreturn : line.getLast? ≠ some '\r') (hrest : IsLines rest ls) :
      IsLines (line ++ '\n' :: rest) (line :: ls)
  | returnNewline {line rest : List Char} {ls : List (List Char)} (hline : '\n' ∉ line)
      (hrest : IsLines rest ls) : IsLines (line ++ '\r' :: '\n' :: rest) (line :: ls)

/-- A text goes on with the end of a line, or there is no more of it. -/
def EndsLine (after : List Char) : Prop :=
  after = [] ∨ ∃ later, after = '\n' :: later ∨ after = '\r' :: '\n' :: later

theorem dropReturn_of_ne {line : List Char} (h : line.getLast? ≠ some '\r') :
    dropReturn line = line := if_neg h

theorem dropReturn_concat (line : List Char) : dropReturn (line ++ ['\r']) = line := by
  rw [dropReturn, if_pos List.getLast?_concat, List.dropLast_concat]

theorem trim_dropReturn (line : List Char) : trim (dropReturn line) = trim line := by
  by_cases hlast : line.getLast? = some '\r'
  · obtain ⟨before, rfl⟩ := List.getLast?_eq_some_iff.mp hlast
    rw [dropReturn_concat, trim_concat_of_blank (by decide)]
  · rw [dropReturn_of_ne hlast]

theorem lines_of_not_mem {line : List Char} (h : '\n' ∉ line) :
    lines line = if line = [] then [] else [line] := by
  have hsplit : line.splitOn '\n' = [] ++ [line] := List.splitOn_eq_singleton h
  rw [lines_eq hsplit, List.map_nil, List.nil_append]

/-- The first line, and those after its newline. -/
theorem lines_append_newline {line : List Char} (h : '\n' ∉ line) (rest : List Char) :
    lines (line ++ '\n' :: rest) = dropReturn line :: lines rest := by
  obtain ⟨init, last, hrest⟩ := exists_splitOn_eq rest
  have hsplit : (line ++ '\n' :: rest).splitOn '\n' = (line :: init) ++ [last] := by
    rw [List.splitOn_append_cons_self, List.splitOn_eq_singleton h, hrest]
    rfl
  rw [lines_eq hsplit, lines_eq hrest]
  rfl

theorem lines_append_returnNewline {line : List Char} (h : '\n' ∉ line) (rest : List Char) :
    lines (line ++ '\r' :: '\n' :: rest) = line :: lines rest := by
  have hmem : '\n' ∉ line ++ ['\r'] := by simp [h]
  have hlines := lines_append_newline hmem rest
  rwa [List.append_assoc, dropReturn_concat] at hlines

theorem isLines_lines (s : List Char) : IsLines s (lines s) := by
  by_cases hs : '\n' ∈ s
  · obtain ⟨line, rest, rfl, hline⟩ := List.eq_append_cons_of_mem hs
    have hrest := isLines_lines rest
    rw [lines_append_newline hline]
    by_cases hreturn : line.getLast? = some '\r'
    · obtain ⟨before, rfl⟩ := List.getLast?_eq_some_iff.mp hreturn
      rw [dropReturn_concat, List.append_assoc]
      exact .returnNewline (fun hmem => hline (List.mem_append_left _ hmem)) hrest
    · rw [dropReturn_of_ne hreturn]
      exact .newline hline hreturn hrest
  · rw [lines_of_not_mem hs]
    by_cases hempty : s = []
    · rw [if_pos hempty, hempty]
      exact .none
    · rw [if_neg hempty]
      exact .unended hs hempty
termination_by s.length
decreasing_by
  subst_vars
  simp
  omega

theorem IsLines.lines_eq {s : List Char} {ls : List (List Char)} (h : IsLines s ls) :
    lines s = ls := by
  induction h with
  | none => rfl
  | unended hline hne => rw [lines_of_not_mem hline, if_neg hne]
  | newline hline hreturn _ ih =>
    rw [lines_append_newline hline, dropReturn_of_ne hreturn, ih]
  | returnNewline hline _ ih => rw [lines_append_returnNewline hline, ih]

/-- A text has these lines and no others. -/
theorem isLines_iff {s : List Char} {ls : List (List Char)} : IsLines s ls ↔ lines s = ls :=
  ⟨IsLines.lines_eq, fun h => h ▸ isLines_lines s⟩

-- A carriage return without a newline after it stays in its line.
example : IsLines "A\r\n\nB\rC\r".toList ["A".toList, [], "B\rC\r".toList] :=
  isLines_iff.mpr (by decide)

theorem IsLines.newline_not_mem {s : List Char} {ls : List (List Char)} (h : IsLines s ls) :
    ∀ l ∈ ls, '\n' ∉ l := by
  induction h with
  | none => simp
  | unended hline _ => exact List.forall_mem_singleton.mpr hline
  | newline hline _ _ ih => exact List.forall_mem_cons.mpr ⟨hline, ih⟩
  | returnNewline hline _ ih => exact List.forall_mem_cons.mpr ⟨hline, ih⟩

/-- Lines of their own, and then those of the rest. -/
theorem lines_unlines_append {ls : List (List Char)} (h : ∀ l ∈ ls, '\n' ∉ l) (rest : List Char) :
    lines (ls.flatMap (fun l => l ++ ['\n']) ++ rest) = ls.map dropReturn ++ lines rest := by
  induction ls with
  | nil => rfl
  | cons l ls ih =>
    obtain ⟨hl, hls⟩ := List.forall_mem_cons.mp h
    have htext : (l :: ls).flatMap (fun l => l ++ ['\n']) ++ rest =
        l ++ '\n' :: (ls.flatMap (fun l => l ++ ['\n']) ++ rest) := by simp
    rw [htext, lines_append_newline hl, ih hls]
    rfl

/-- A line that has an end, and no blank before it, is the first of its text. -/
theorem exists_lines_append {line after : List Char} (hline : '\n' ∉ line) (hne : line ≠ [])
    (hbare : EndsBare line) (hafter : EndsLine after) :
    ∃ later, lines (line ++ after) = line :: later := by
  obtain rfl | ⟨rest, rfl | rfl⟩ := hafter
  · exact ⟨[], by rw [List.append_nil, lines_of_not_mem hline, if_neg hne]⟩
  · have hreturn : line.getLast? ≠ some '\r' := by
      intro hlast
      exact absurd (hbare _ hlast) (by decide)
    exact ⟨lines rest, by rw [lines_append_newline hline, dropReturn_of_ne hreturn]⟩
  · exact ⟨lines rest, lines_append_returnNewline hline rest⟩

/-! ### Looking for the first line -/

section First

variable {β : Type} {tells : List Char → Option β} (hnil : tells [] = none)

include hnil

theorem findSome?_singleton_nil : [[]].findSome? (fun line => tells (trim line)) = none := by
  have hempty : tells (trim []) = none := hnil
  rw [List.findSome?_singleton, hempty]

theorem findSome?_lines (s : List Char) :
    (lines s).findSome? (fun line => tells (trim line)) =
      (s.splitOn '\n').findSome? fun line => tells (trim line) := by
  obtain ⟨init, last, h⟩ := exists_splitOn_eq s
  have hinit : (init.map dropReturn).findSome? (fun line => tells (trim line)) =
      init.findSome? fun line => tells (trim line) := by
    rw [List.findSome?_map]
    simp only [Function.comp_def, trim_dropReturn]
  have hlast : (if last = [] then [] else [last]).findSome? (fun line => tells (trim line)) =
      [last].findSome? fun line => tells (trim line) := by
    by_cases hl : last = []
    · subst hl
      exact (findSome?_singleton_nil hnil).symm
    · rw [if_neg hl]
  rw [lines_eq h, h, List.findSome?_append, List.findSome?_append, hinit, hlast]

section Blank

variable {c : Char} (hc : isBlank c = true)

include hc

theorem findSome?_splitOn_cons (s : List Char) :
    ((c :: s).splitOn '\n').findSome? (fun line => tells (trim line)) =
      (s.splitOn '\n').findSome? fun line => tells (trim line) := by
  rw [List.splitOn_cons_eq_if_modifyHead]
  split
  · rw [← List.singleton_append, List.findSome?_append, findSome?_singleton_nil hnil, Option.none_or]
  · obtain ⟨l, ls, hsplit⟩ := List.exists_cons_of_ne_nil (List.splitOn_ne_nil '\n' s)
    rw [hsplit, List.modifyHead_cons, List.findSome?_cons, List.findSome?_cons,
      trim_cons_of_blank hc]

/-- The induction is on what follows `line`, which is the part of the current line before it. -/
theorem findSome?_splitOn_concat {line : List Char} (hline : '\n' ∉ line) (s : List Char) :
    ((line ++ (s ++ [c])).splitOn '\n').findSome? (fun line => tells (trim line)) =
      ((line ++ s).splitOn '\n').findSome? fun line => tells (trim line) := by
  induction s generalizing line with
  | nil =>
    rw [List.nil_append, List.append_nil, List.splitOn_eq_singleton hline]
    by_cases hnewline : c = '\n'
    · subst hnewline
      rw [List.splitOn_append_cons_self, List.splitOn_eq_singleton hline, List.splitOn_nil,
        List.findSome?_append, findSome?_singleton_nil hnil, Option.or_none]
    · have hmem : '\n' ∉ line ++ [c] := by simp [hline, Ne.symm hnewline]
      rw [List.splitOn_eq_singleton hmem, List.findSome?_singleton, List.findSome?_singleton,
        trim_concat_of_blank hc]
  | cons d s ih =>
    by_cases hnewline : d = '\n'
    · subst hnewline
      have hs := @ih [] List.not_mem_nil
      rw [List.nil_append, List.nil_append] at hs
      rw [List.cons_append, List.splitOn_append_cons_self, List.splitOn_append_cons_self,
        List.findSome?_append, List.findSome?_append, hs]
    · have hmem : '\n' ∉ line ++ [d] := by simp [hline, Ne.symm hnewline]
      have hs := ih hmem
      rwa [List.append_assoc, List.append_assoc] at hs

end Blank

theorem findSome?_splitOn_trimStart (s : List Char) :
    ((trimStart s).splitOn '\n').findSome? (fun line => tells (trim line)) =
      (s.splitOn '\n').findSome? fun line => tells (trim line) := by
  induction s with
  | nil => rfl
  | cons c s ih =>
    cases hc : isBlank c with
    | true => rw [trimStart_cons_of_blank hc, ih, findSome?_splitOn_cons hnil hc]
    | false => rw [trimStart, List.dropWhile_cons_of_neg (by simp [hc])]

theorem findSome?_splitOn_trimEnd (s : List Char) :
    ((trimEnd s).splitOn '\n').findSome? (fun line => tells (trim line)) =
      (s.splitOn '\n').findSome? fun line => tells (trim line) := by
  induction s using List.reverseRecOn with
  | nil => rfl
  | append_singleton s c ih =>
    cases hc : isBlank c with
    | true =>
      rw [trimEnd_concat_of_blank hc, ih]
      have hempty : '\n' ∉ ([] : List Char) := List.not_mem_nil
      exact (findSome?_splitOn_concat hnil hc hempty s).symm
    | false =>
      rw [trimEnd, List.reverse_concat, List.dropWhile_cons_of_neg (by simp [hc]),
        ← List.reverse_concat, List.reverse_reverse]

/-- Blanks around a text do not change what its lines tell. -/
theorem findSome?_lines_trim (s : List Char) :
    (lines (trim s)).findSome? (fun line => tells (trim line)) =
      (lines s).findSome? fun line => tells (trim line) := by
  rw [findSome?_lines hnil, findSome?_lines hnil, trim, findSome?_splitOn_trimEnd hnil,
    findSome?_splitOn_trimStart hnil]

end First

end CardTelemetry.Text
