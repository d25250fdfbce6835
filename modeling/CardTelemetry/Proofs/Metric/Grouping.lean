import CardTelemetry.Proofs.Metric.Blocks
import Mathlib.Data.List.Perm.Basic

/-!
# Text by names

The text of some samples is known from which names come, in which order they first do, and what the
samples of each name are. Nothing else of their order counts: samples may be interleaved in any way,
and those of one name need not be of one metric, as long as the first of them keeps its place.
-/

namespace CardTelemetry.Exposition

/-- The names of some samples, each where it first comes. -/
def names (samples : List Sample) : List String := (samples.map Sample.name).eraseDups

def ofName (name : String) (samples : List Sample) : List Sample :=
  samples.filter fun s => s.name = name

/-- The samples with those of one name brought together, otherwise in their order. -/
def grouped (samples : List Sample) : List Sample :=
  (names samples).flatMap fun name => ofName name samples

/-- A help text as its line has it, with two characters for a backslash and for a newline. -/
def escapedHelp (help : String) : List Char :=
  help.toList.flatMap fun c =>
    if c = '\\' then ['\\', '\\'] else if c = '\n' then ['\\', 'n'] else [c]

/-- The text of samples of one name: a help and a type line for the first, and a line for each. -/
def familyText : List Sample → List Char
  | [] => []
  | s :: rest =>
    "# HELP ".toList ++ s.name.toList ++ ' ' :: escapedHelp s.metric.help ++ '\n' ::
      ("# TYPE ".toList ++ s.name.toList ++ " gauge\n".toList ++
        (s :: rest).flatMap fun t => line t ++ ['\n'])

/-- The header of the first sample of each name. -/
def headerLines (samples : List Sample) : List (List Char) :=
  (names samples).flatMap fun name =>
    (ofName name samples).head?.toList.flatMap fun s => header s.metric

variable {samples others : List Sample} {name : String}

theorem mem_names : name ∈ names samples ↔ ∃ s ∈ samples, s.name = name := by
  rw [names, List.mem_eraseDups, List.mem_map]

theorem ofName_eq_nil (h : ∀ s ∈ samples, s.name ≠ name) : ofName name samples = [] := by
  rw [ofName, List.filter_eq_nil_iff]
  intro s hs hname
  exact h s hs (of_decide_eq_true hname)

theorem ofName_append (name : String) (samples others : List Sample) :
    ofName name (samples ++ others) = ofName name samples ++ ofName name others :=
  List.filter_append ..

theorem unlines_cons (s : Sample) (rest : List Sample) :
    unlines (header s.metric ++ (s :: rest).map line) = familyText (s :: rest) := by
  have hend : " gauge\n".toList = " gauge".toList ++ ['\n'] := by decide
  show _ = "# HELP ".toList ++ s.name.toList ++ ' ' :: s.metric.help.toList.flatMap escapeHelp ++
    '\n' :: ("# TYPE ".toList ++ s.name.toList ++ " gauge\n".toList ++
      (s :: rest).flatMap fun t => line t ++ ['\n'])
  rw [unlines, List.flatMap_append, List.flatMap_map, hend]
  simp only [header, List.flatMap_cons, List.flatMap_nil, List.append_assoc, List.cons_append,
    List.nil_append]
  rfl

/-- **The text goes name by name.** -/
theorem write_eq_familyText (samples : List Sample) :
    write samples = (names samples).flatMap fun name => familyText (ofName name samples) := by
  have hfamily (members : List Sample) : unlines (blockLines members) = familyText members := by
    cases members with
    | nil => rfl
    | cons s rest => exact unlines_cons s rest
  rw [write, lines_families, unlines, List.flatMap_assoc]
  apply List.flatMap_congr
  intro name _
  exact hfamily _

/-! ### Samples brought together -/

/-- Samples are the same up to their order if those of each name are. -/
theorem perm_of_ofName (h : ∀ name, ofName name samples = ofName name others) :
    samples.Perm others := by
  have hcount (s : Sample) (list : List Sample) : (ofName s.name list).count s = list.count s :=
    List.count_filter (by simp)
  rw [List.perm_iff_count]
  intro s
  rw [← hcount s samples, h, hcount]

theorem ofName_ofName (name other : String) (samples : List Sample) :
    ofName name (ofName other samples) = if name = other then ofName name samples else [] := by
  split
  · rename_i heq
    subst heq
    rw [ofName, ofName, List.filter_filter]
    simp only [Bool.and_self]
  · rename_i hne
    apply ofName_eq_nil
    intro s hs hname
    have hother : s.name = other := of_decide_eq_true (List.mem_filter.mp hs).2
    exact hne (hname.symm.trans hother)

theorem ofName_grouped (name : String) (samples : List Sample) :
    ofName name (grouped samples) = ofName name samples := by
  rw [grouped, ofName, List.filter_flatMap]
  show ((names samples).flatMap fun other => ofName name (ofName other samples)) = _
  simp only [ofName_ofName]
  by_cases hin : name ∈ names samples
  · have hone : ([name].flatMap fun other => if name = other then ofName name samples else []) =
        ofName name samples := by simp
    rw [← flatMap_eq_of_sublist (List.singleton_sublist.mpr hin) (nodup_eraseDups _), hone]
    intro other _ hout
    rw [if_neg fun heq => hout (List.mem_singleton.mpr heq.symm)]
  · have hnone : ∀ s ∈ samples, s.name ≠ name :=
      fun s hs hname => hin (mem_names.mpr ⟨s, hs, hname⟩)
    simp [ofName_eq_nil hnone]

/-- Names that each have samples come in their order where those are brought together. -/
theorem names_flatMap_ofName {list : List String} (hnodup : list.Nodup)
    (h : ∀ name ∈ list, name ∈ names samples) :
    names (list.flatMap fun name => ofName name samples) = list := by
  induction list with
  | nil => rfl
  | cons name rest ih =>
    rw [List.nodup_cons] at hnodup
    rw [List.forall_mem_cons] at h
    have hsame : ∀ n ∈ (ofName name samples).map Sample.name, n = name := by
      intro n hn
      obtain ⟨s, hs, rfl⟩ := List.mem_map.mp hn
      exact of_decide_eq_true (List.mem_filter.mp hs).2
    have hfirst : ((ofName name samples).map Sample.name).eraseDups = [name] := by
      obtain ⟨s, hs, hname⟩ := mem_names.mp h.1
      have hmem : name ∈ (ofName name samples).map Sample.name :=
        List.mem_map.mpr ⟨s, List.mem_filter.mpr ⟨hs, decide_eq_true hname⟩, hname⟩
      rw [List.eq_replicate_of_mem hsame] at hmem ⊢
      exact eraseDups_replicate (List.mem_replicate.mp hmem).1 name
    have hrest : ((rest.flatMap fun name => ofName name samples).map Sample.name).removeAll
        ((ofName name samples).map Sample.name) =
          (rest.flatMap fun name => ofName name samples).map Sample.name := by
      apply removeAll_eq_self
      intro n hn hn'
      obtain ⟨s, hs, rfl⟩ := List.mem_map.mp hn
      obtain ⟨other, hother, hs⟩ := List.mem_flatMap.mp hs
      have hname : s.name = other := of_decide_eq_true (List.mem_filter.mp hs).2
      rw [← hname, hsame _ hn'] at hother
      exact hnodup.1 hother
    rw [List.flatMap_cons, names, List.map_append, List.eraseDups_append, hfirst, hrest]
    exact congrArg (name :: ·) (ih hnodup.2 h.2)

/-- Apart from the header lines there is a line for each sample. -/
theorem perm_lines (samples : List Sample) :
    ((families samples).flatMap Family.lines).Perm (headerLines samples ++ samples.map line) := by
  have hblock (members : List Sample) : blockLines members =
      (members.head?.toList.flatMap fun s => header s.metric) ++ members.map line := by
    cases members <;> rfl
  have hsamples : ((names samples).flatMap fun name => (ofName name samples).map line).Perm
      (samples.map line) := by
    rw [← List.map_flatMap]
    exact (perm_of_ofName fun name => ofName_grouped name samples).map line
  rw [lines_families]
  simp only [hblock]
  exact (List.flatMap_append_perm _ _ _).symm.trans (hsamples.append_left _)

theorem names_grouped (samples : List Sample) : names (grouped samples) = names samples :=
  names_flatMap_ofName (nodup_eraseDups _) fun _ h => h

/-! ### Lists one after the other -/

theorem write_append (h : ∀ s ∈ samples, ∀ t ∈ others, s.name ≠ t.name) :
    write (samples ++ others) = write samples ++ write others := by
  have hnames : names (samples ++ others) = names samples ++ names others := by
    rw [names, List.map_append, List.eraseDups_append, removeAll_eq_self]
    · rfl
    · intro n hn hn'
      obtain ⟨t, ht, rfl⟩ := List.mem_map.mp hn
      obtain ⟨s, hs, hname⟩ := List.mem_map.mp hn'
      exact h s hs t ht hname
  rw [write_eq_familyText, hnames, List.flatMap_append, write_eq_familyText, write_eq_familyText]
  congr 1
  · apply List.flatMap_congr
    intro name hname
    obtain ⟨s, hs, rfl⟩ := mem_names.mp hname
    have hnone : ofName s.name others = [] := ofName_eq_nil fun t ht heq => h s hs t ht heq.symm
    rw [ofName_append, hnone, List.append_nil]
  · apply List.flatMap_congr
    intro name hname
    obtain ⟨t, ht, rfl⟩ := mem_names.mp hname
    have hnone : ofName t.name samples = [] := ofName_eq_nil fun s hs => h s hs t ht
    rw [ofName_append, hnone, List.nil_append]

/-- **Text groups samples by name.** It is the families of the names one after the other, in the
order in which the names first come, with all samples of a name in their order below the header of
the first. Its lines are the headers and one for each sample. So another order of the samples gives
the same text if it keeps the first of the names and the samples of each, and lists without a name
in common are written one after the other. -/
theorem text_groups_names (samples : List Sample) :
    expose samples =
        String.ofList ((names samples).flatMap fun name => familyText (ofName name samples)) ∧
      (∃ ls : List (List Char), (expose samples).toList = ls.flatMap (fun l => l ++ ['\n']) ∧
        ls.Perm (headerLines samples ++ samples.map line)) ∧
      (grouped samples).Perm samples ∧
      (∀ name, ofName name (grouped samples) = ofName name samples) ∧
      (∀ others, names others = names samples →
        (∀ name, ofName name others = ofName name samples) → expose others = expose samples) ∧
      expose (grouped samples) = expose samples ∧
      ∀ others, (∀ s ∈ samples, ∀ t ∈ others, s.name ≠ t.name) →
        expose (samples ++ others) = expose samples ++ expose others := by
  have hreorder (others : List Sample) (hnames : names others = names samples)
      (hname : ∀ name, ofName name others = ofName name samples) :
      expose others = expose samples := by
    rw [expose, expose, write_eq_familyText, write_eq_familyText, hnames]
    simp only [hname]
  refine ⟨?_, ?_, ?_, ?_, hreorder, ?_, ?_⟩
  · rw [expose, write_eq_familyText]
  · exact ⟨_, String.toList_ofList, perm_lines samples⟩
  · exact perm_of_ofName fun name => ofName_grouped name samples
  · exact fun name => ofName_grouped name samples
  · exact hreorder _ (names_grouped samples) fun name => ofName_grouped name samples
  · intro others h
    rw [expose, write_append h, String.ofList_append]
    rfl

/-- Of two helps for one name the first is shown, and a sample of another name between them moves
below both. -/
example : expose
    [⟨⟨"m", "first\n", []⟩, [], .one, rfl⟩, ⟨⟨"n", "", []⟩, [], .one, rfl⟩,
      ⟨⟨"m", "second", ["k"]⟩, ["v"], .zero, rfl⟩] =
    "# HELP m first\\n\n# TYPE m gauge\nm 1\nm\x7bk=\"v\"\x7d 0\n" ++
      "# HELP n \n# TYPE n gauge\nn 1\n" := by
  decide +kernel

end CardTelemetry.Exposition
