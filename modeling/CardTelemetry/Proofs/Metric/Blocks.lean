import CardTelemetry.Proofs.Metric.Families

/-!
# Exposition text as blocks

The text of one metric is a block: a help line, a type line and a line for each sample. If it is
known which metrics there can be and in which order they come, the text of the samples is a row of
blocks, and a metric without samples leaves no trace in it.
-/

namespace CardTelemetry.Exposition

/-- Label values and a gauge of a metric that is known. -/
abbrev Entry := List String × Binary64

def entry (s : Sample) : Entry := (s.labelValues, s.value)

def entryLine (m : Metric) (e : Entry) : List Char :=
  m.name.toList ++ labelsText (m.labelNames.zip e.1) ++ ' ' :: e.2.expose

def header (m : Metric) : List (List Char) :=
  ["# HELP ".toList ++ m.name.toList ++ ' ' :: m.help.toList.flatMap escapeHelp,
    "# TYPE ".toList ++ m.name.toList ++ " gauge".toList]

/-- The text of one metric: its two header lines and a line for each entry, or no text if there are
no entries. -/
def block (m : Metric) (entries : List Entry) : List Char :=
  if entries.isEmpty then [] else unlines (header m ++ entries.map (entryLine m))

theorem block_eq_nil_iff {m : Metric} {entries : List Entry} :
    block m entries = [] ↔ entries = [] := by
  unfold block
  split
  · rename_i h
    exact iff_of_true rfl (List.isEmpty_iff.mp h)
  · rename_i h
    apply iff_of_false
    · simp [unlines, header]
    · intro hnil
      exact h (List.isEmpty_iff.mpr hnil)

/-- Samples of one metric are written as a block of their entries. -/
theorem unlines_blockLines {m : Metric} {samples : List Sample}
    (h : ∀ s ∈ samples, s.metric = m) :
    unlines (blockLines samples) = block m (samples.map entry) := by
  cases samples with
  | nil => rfl
  | cons s rest =>
    have hlines : (s :: rest).map line = ((s :: rest).map entry).map (entryLine m) := by
      rw [List.map_map]
      apply List.map_congr_left
      intro t ht
      show entryLine t.metric (entry t) = entryLine m (entry t)
      rw [h t ht]
    show unlines (header s.metric ++ (s :: rest).map line) = _
    rw [hlines, h s List.mem_cons_self]
    rfl

/-- Names that do not occur may be passed over. -/
theorem flatMap_eq_of_sublist {β : Type} {occurring names : List String} {f : String → List β}
    (h : occurring.Sublist names) (hnodup : names.Nodup)
    (hnone : ∀ n ∈ names, n ∉ occurring → f n = []) :
    occurring.flatMap f = names.flatMap f := by
  induction h with
  | slnil => rfl
  | @cons occurring names n hsub ih =>
    rw [List.nodup_cons] at hnodup
    rw [List.forall_mem_cons] at hnone
    have hskip : f n = [] := hnone.1 fun hin => hnodup.1 (hsub.subset hin)
    rw [List.flatMap_cons, hskip, List.nil_append]
    exact ih hnodup.2 hnone.2
  | @cons_cons occurring names n hsub ih =>
    rw [List.nodup_cons] at hnodup
    rw [List.forall_mem_cons] at hnone
    rw [List.flatMap_cons, List.flatMap_cons]
    congr 1
    apply ih hnodup.2
    intro n' hn' hout
    apply hnone.2 n' hn'
    rw [List.mem_cons, not_or]
    refine ⟨?_, hout⟩
    intro heq
    exact hnodup.1 (heq ▸ hn')

section Rows

variable {samples : List Sample} {rows : List (Metric × List Entry)}

/-- Samples are written row by row if the rows have their metrics in the order of the samples. -/
theorem write_eq_blocks (hnodup : (rows.map fun r => r.1.name).Nodup)
    (horder : (samples.map Sample.name).eraseDups.Sublist (rows.map fun r => r.1.name))
    (hmetric : ∀ r ∈ rows, ∀ s ∈ samples, s.name = r.1.name → s.metric = r.1)
    (hentries : ∀ r ∈ rows, (samples.filter fun s => s.name = r.1.name).map entry = r.2) :
    write samples = rows.flatMap fun r => block r.1 r.2 := by
  have hnone : ∀ n ∈ rows.map (fun r => r.1.name), n ∉ (samples.map Sample.name).eraseDups →
      blockLines (samples.filter fun s => s.name = n) = [] := by
    intro n _ hn
    have hempty : (samples.filter fun s => s.name = n) = [] := by
      rw [List.filter_eq_nil_iff]
      intro s hs hname
      apply hn
      rw [List.mem_eraseDups, ← of_decide_eq_true hname]
      exact List.mem_map_of_mem hs
    rw [hempty]
    rfl
  rw [write, lines_families, flatMap_eq_of_sublist horder hnodup hnone, unlines, List.flatMap_assoc,
    List.flatMap_map]
  apply List.flatMap_congr
  intro r hr
  have hsame : ∀ s ∈ samples.filter (fun s => s.name = r.1.name), s.metric = r.1 := by
    intro s hs
    exact hmetric r hr s (List.mem_of_mem_filter hs) (of_decide_eq_true (List.mem_filter.mp hs).2)
  rw [← hentries r hr]
  exact unlines_blockLines hsame

end Rows

/-! ### The order of names -/

section Order

variable {as bs as' bs' : List String}

theorem eraseDups_append_sublist (ha : as.eraseDups.Sublist as') (hb : bs.eraseDups.Sublist bs')
    (h : (as' ++ bs').Nodup) : (as ++ bs).eraseDups.Sublist (as' ++ bs') := by
  have hdisjoint : bs.removeAll as = bs := by
    apply removeAll_eq_self
    intro n hn hn'
    have hin : n ∈ bs' := hb.subset (List.mem_eraseDups.mpr hn)
    exact (List.nodup_append'.mp h).2.2 (ha.subset (List.mem_eraseDups.mpr hn')) hin
  rw [List.eraseDups_append, hdisjoint]
  exact ha.append hb

/-- Names that come again and again in one order are found in that order. -/
theorem eraseDups_repeated_sublist {α : Type} (as : List String) (xs : List α) :
    (xs.flatMap fun _ => as).eraseDups.Sublist as := by
  cases xs with
  | nil => exact List.nil_sublist as
  | cons x rest =>
    have hnone : (rest.flatMap fun _ => as).removeAll as = [] := by
      rw [List.removeAll, List.filter_eq_nil_iff]
      intro n hn
      obtain ⟨_, -, hin⟩ := List.mem_flatMap.mp hn
      simpa using hin
    rw [List.flatMap_cons, List.eraseDups_append, hnone, List.eraseDups_nil, List.append_nil]
    exact eraseDups_sublist as

end Order

end CardTelemetry.Exposition
