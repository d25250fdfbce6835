import CardTelemetry.Proofs.Metric.Families
import CardTelemetry.Proofs.Metric.Reader

/-!
# Exposition text is read back

Exposition text consists of its lines, for no line has a newline inside, and each line says to a
reader what it was written for. So label values and help texts may be any texts at all: none can
end its line, pass for another label or be mistaken for another value. Metric names and label
names are assumed to be legible, since nothing in them is escaped.
-/

namespace CardTelemetry.Exposition

/-! ### Lines -/

section Newline

theorem newline_not_mem_escapeHelp (c : Char) : '\n' ∉ escapeHelp c := by
  unfold escapeHelp
  split
  · decide
  · split
    · decide
    · rename_i hnewline
      simpa using Ne.symm hnewline

theorem newline_not_mem_escapeLabel (c : Char) : '\n' ∉ escapeLabel c := by
  unfold escapeLabel
  split
  · decide
  · split
    · decide
    · split
      · decide
      · rename_i hnewline
        simpa using Ne.symm hnewline

theorem newline_not_mem_flatMap {escape : Char → List Char} (h : ∀ c, '\n' ∉ escape c)
    (cs : List Char) : '\n' ∉ cs.flatMap escape := by
  intro hmem
  obtain ⟨c, -, hc⟩ := List.mem_flatMap.mp hmem
  exact h c hc

theorem newline_not_mem_labelText {label : String × String} (h : '\n' ∉ label.1.toList) :
    '\n' ∉ labelText label := by
  have hvalue := newline_not_mem_flatMap newline_not_mem_escapeLabel label.2.toList
  simp [labelText, h, hvalue]

theorem newline_not_mem_intercalate {ls : List (List Char)} (h : ∀ l ∈ ls, '\n' ∉ l) :
    '\n' ∉ [','].intercalate ls := by
  induction ls with
  | nil => exact List.not_mem_nil
  | cons l rest ih =>
    rw [List.forall_mem_cons] at h
    cases rest with
    | nil =>
      rw [List.intercalate_singleton]
      exact h.1
    | cons l' rest =>
      rw [List.intercalate_cons_cons]
      simp [h.1, ih h.2]

theorem newline_not_mem_labelsText {labels : List (String × String)}
    (h : ∀ label ∈ labels, '\n' ∉ label.1.toList) : '\n' ∉ labelsText labels := by
  unfold labelsText
  split
  · exact List.not_mem_nil
  · have hlabels : '\n' ∉ [','].intercalate (labels.map labelText) := by
      apply newline_not_mem_intercalate
      intro l hl
      obtain ⟨label, hlabel, rfl⟩ := List.mem_map.mp hl
      exact newline_not_mem_labelText (h label hlabel)
    simp [hlabels]

variable {s : Sample}

theorem newline_not_mem_name (h : Legible s.metric) : '\n' ∉ s.name.toList := by
  intro hmem
  exact (h.name _ hmem).2.2 rfl

theorem newline_not_mem_line (h : Legible s.metric) : '\n' ∉ line s := by
  have hlabels : '\n' ∉ labelsText s.labels := by
    apply newline_not_mem_labelsText
    intro label hlabel hmem
    exact (h.labelNames label.1 (List.of_mem_zip hlabel).1 _ hmem).2 rfl
  simp [line, newline_not_mem_name h, hlabels, s.value.newline_not_mem_expose]

theorem newline_not_mem_lines {f : Family} (h : ∀ s ∈ f.members, Legible s.metric) :
    ∀ l ∈ f.lines, '\n' ∉ l := by
  have hname : '\n' ∉ f.name.toList := newline_not_mem_name (h f.first List.mem_cons_self)
  have hhelp := newline_not_mem_flatMap newline_not_mem_escapeHelp f.first.metric.help.toList
  intro l hl
  rcases List.mem_cons.mp hl with rfl | hl
  · rw [helpLine_eq]
    simp [hname, hhelp]
  · rcases List.mem_cons.mp hl with rfl | hl
    · rw [typeLine_eq]
      simp [hname]
    · obtain ⟨s, hs, rfl⟩ := List.mem_map.mp hl
      exact newline_not_mem_line (h s hs)

end Newline

theorem unlines_eq_intercalate (ls : List (List Char)) :
    unlines ls = ['\n'].intercalate (ls ++ [[]]) := by
  induction ls with
  | nil => rfl
  | cons l rest ih =>
    obtain ⟨l', rest', hrest⟩ := List.exists_cons_of_ne_nil (List.append_ne_nil_of_right_ne_nil rest
      (List.cons_ne_nil ([] : List Char) []))
    rw [List.cons_append, hrest, List.intercalate_cons_cons, ← hrest, ← ih]
    rfl

/-- Lines are told apart by their newlines, and after the last newline nothing is left. -/
theorem splitOn_unlines {ls : List (List Char)} (h : ∀ l ∈ ls, '\n' ∉ l) :
    (unlines ls).splitOn '\n' = ls ++ [[]] := by
  rw [unlines_eq_intercalate]
  apply List.splitOn_intercalate
  · intro l hl
    rcases List.mem_append.mp hl with hl | hl
    · exact h l hl
    · rw [List.mem_singleton.mp hl]
      exact List.not_mem_nil
  · simp

/-! ### What a reader finds -/

/-- What the lines of the samples of one name say, or nothing if there are no samples. -/
def blockItems : List Sample → List Item
  | [] => []
  | s :: rest =>
    .help s.name s.metric.help :: .type s.name "gauge" ::
      (s :: rest).map fun t => .sample t.name t.labels (String.ofList t.value.expose)

theorem readLine_blockLines {samples : List Sample} (h : ∀ s ∈ samples, Legible s.metric) :
    (blockLines samples).map readLine = (blockItems samples).map some := by
  cases samples with
  | nil => rfl
  | cons s rest =>
    have hname : ∀ c ∈ s.name.toList, c ≠ ' ' := by
      intro c hc
      exact ((h s List.mem_cons_self).name c hc).1
    have hsamples : ((s :: rest).map line).map readLine = ((s :: rest).map fun t =>
        Item.sample t.name t.labels (String.ofList t.value.expose)).map some := by
      rw [List.map_map, List.map_map]
      apply List.map_congr_left
      intro t ht
      exact readLine_line (h t ht)
    show readLine (Family.helpLine ⟨s, rest⟩) :: readLine (Family.typeLine ⟨s, rest⟩) ::
      ((s :: rest).map line).map readLine = _
    rw [@readLine_helpLine ⟨s, rest⟩ hname, @readLine_typeLine ⟨s, rest⟩ hname, hsamples]
    rfl

/-- Each family has two lines that are not of its members. -/
theorem length_flatMap_lines (fs : List Family) :
    (fs.flatMap Family.lines).length =
      2 * fs.length + (fs.flatMap Family.members).length := by
  induction fs with
  | nil => rfl
  | cons f rest ih =>
    have hfamily : f.lines.length = f.members.length + 2 := by
      simp [Family.lines]
    rw [List.flatMap_cons, List.flatMap_cons, List.length_append, List.length_append, ih, hfamily,
      List.length_cons]
    omega

theorem length_lines (samples : List Sample) :
    ((families samples).flatMap Family.lines).length =
      2 * (samples.map Sample.name).eraseDups.length + samples.length := by
  rw [length_flatMap_lines, length_members_families, ← name_families, List.length_map]

/-- Label values can be told from the labels. -/
theorem labelValues_eq (s : Sample) : s.labelValues = s.labels.map Prod.snd :=
  (List.map_snd_zip s.aligned.le).symm

/-- The lines of a text, and what they say. -/
theorem lines_expose (samples : List Sample) (h : ∀ s ∈ samples, Legible s.metric) :
    ∃ ls : List (List Char), (expose samples).toList.splitOn '\n' = ls ++ [[]] ∧
      ls.length = 2 * (samples.map Sample.name).eraseDups.length + samples.length ∧
      ls.map readLine = ((samples.map Sample.name).eraseDups.flatMap fun name =>
        blockItems (samples.filter fun s => s.name = name)).map some := by
  refine ⟨(families samples).flatMap Family.lines, ?_, length_lines samples, ?_⟩
  · rw [expose, String.toList_ofList, write]
    apply splitOn_unlines
    intro l hl
    obtain ⟨f, hf, hl⟩ := List.mem_flatMap.mp hl
    have hmembers : ∀ s ∈ f.members, Legible s.metric := by
      intro s hs
      rw [members_families hf] at hs
      exact h s (List.mem_of_mem_filter hs)
    exact newline_not_mem_lines hmembers l hl
  · rw [lines_families, List.map_flatMap, List.map_flatMap]
    apply List.flatMap_congr
    intro name _
    apply readLine_blockLines
    intro s hs
    exact h s (List.mem_of_mem_filter hs)

/-- **Exposition text can be read back, and cannot be forged.** It is split at its newlines into two
lines for each name and one for each sample, and from these every name, the help text of its first
sample and all labels are recovered, with the values as they were before they were escaped. -/
theorem text_reads_back (samples : List Sample) (h : ∀ s ∈ samples, Legible s.metric) :
    (∃ ls : List (List Char), (expose samples).toList.splitOn '\n' = ls ++ [[]] ∧
      ls.length = 2 * (samples.map Sample.name).eraseDups.length + samples.length ∧
      ls.map readLine = ((samples.map Sample.name).eraseDups.flatMap fun name =>
        blockItems (samples.filter fun s => s.name = name)).map some) ∧
    ∀ s t : Sample, Legible s.metric → s.metric = t.metric → s.labelValues ≠ t.labelValues →
      s.text ≠ t.text := by
  refine ⟨lines_expose samples h, ?_⟩
  intro s t hs hmetric hne htext
  have ht : Legible t.metric := hmetric ▸ hs
  have hlines : line s = line t := String.ofList_injective htext
  have hread : readLine (line s) = readLine (line t) := congrArg readLine hlines
  rw [readLine_line hs, readLine_line ht] at hread
  have hlabels : s.labels = t.labels := (Item.sample.inj (Option.some.inj hread)).2.1
  apply hne
  rw [labelValues_eq, hlabels, ← labelValues_eq]

def portStatus : Metric := ⟨"port_status", "On\nor \\off.", ["card", "port"]⟩

/-- A label value that tries to end its quotes, add a label and begin a line. -/
def forged : Sample := ⟨portStatus, ["card0", "\",port=\"DP\"\x7d 1\n# HELP "], .zero, rfl⟩

def honest : Sample := ⟨portStatus, ["card0", "DP\\n"], .one, rfl⟩

theorem text_reads_back_forged :
    (∀ s ∈ [forged, honest], Legible s.metric) ∧
      (∃ ls : List (List Char), (expose [forged, honest]).toList.splitOn '\n' = ls ++ [[]] ∧
        ls.length = 4 ∧
        ls.map readLine =
          [some (.help "port_status" "On\nor \\off."), some (.type "port_status" "gauge"),
            some (.sample "port_status"
              [("card", "card0"), ("port", "\",port=\"DP\"\x7d 1\n# HELP ")] "0"),
            some (.sample "port_status" [("card", "card0"), ("port", "DP\\n")] "1")]) ∧
      forged.text ≠ honest.text := by
  have hlegible : ∀ s ∈ [forged, honest], Legible s.metric := by decide
  obtain ⟨⟨ls, hsplit, hlength, hread⟩, htexts⟩ := text_reads_back [forged, honest] hlegible
  refine ⟨hlegible, ⟨ls, hsplit, hlength, ?_⟩, ?_⟩
  · rw [hread]
    rfl
  · exact htexts forged honest (hlegible forged List.mem_cons_self) rfl (by decide)

end CardTelemetry.Exposition
