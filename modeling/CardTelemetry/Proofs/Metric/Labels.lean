import CardTelemetry.Proofs.Card.Samples
import CardTelemetry.Proofs.Metric.ReadBack
import CardTelemetry.Proofs.Metric.Record

/-!
# Three views of a sample's labels

A look-up by name finds the first label of the name, the line has all labels in their order, and
the JSON object keeps the last label of each name. What each of them gives is said by positions
among the metric's label names, which may be repeated; that every such position has a value is due
to the count that is taken when a sample is made.
-/

namespace CardTelemetry.Sample

/-! ### Positions of names -/

/-- The first position of a name. -/
def FirstAt (names : List String) (name : String) (i : Nat) : Prop :=
  names[i]? = some name ∧ ∀ j < i, names[j]? ≠ some name

/-- The last position of a name. -/
def LastAt (names : List String) (name : String) (i : Nat) : Prop :=
  names[i]? = some name ∧ ∀ j, i < j → names[j]? ≠ some name

/-- Each name has the same value at its first and at its last position. -/
def FirstIsLast (names values : List String) : Prop :=
  ∀ name i j, FirstAt names name i → LastAt names name j → values[i]? = values[j]?

section Positions

variable {names : List String} {name : String} {i j : Nat}

theorem exists_split {α : Type} {as : List α} {a : α} (h : as[i]? = some a) :
    ∃ earlier later, as = earlier ++ a :: later ∧ earlier.length = i := by
  obtain ⟨hlt, rfl⟩ := List.getElem?_eq_some_iff.mp h
  refine ⟨as.take i, as.drop (i + 1), ?_, List.length_take_of_le hlt.le⟩
  rw [← List.drop_eq_getElem_cons hlt, List.take_append_drop]

theorem firstAt_append_iff {earlier later : List String} :
    FirstAt (earlier ++ name :: later) name earlier.length ↔ name ∉ earlier := by
  constructor
  · intro h hmem
    obtain ⟨j, hj, heq⟩ := List.mem_iff_getElem.mp hmem
    apply h.2 j hj
    rw [List.getElem?_append_left hj, List.getElem?_eq_getElem hj, heq]
  · intro h
    refine ⟨by simp, ?_⟩
    intro j hj heq
    rw [List.getElem?_append_left hj] at heq
    exact h (List.mem_of_getElem? heq)

theorem lastAt_append_iff {earlier later : List String} :
    LastAt (earlier ++ name :: later) name earlier.length ↔ name ∉ later := by
  have hlater (k : Nat) : (earlier ++ name :: later)[earlier.length + (k + 1)]? = later[k]? := by
    rw [List.getElem?_append_right (by omega), Nat.add_sub_cancel_left, List.getElem?_cons_succ]
  constructor
  · intro h hmem
    obtain ⟨k, hk, heq⟩ := List.mem_iff_getElem.mp hmem
    apply h.2 (earlier.length + (k + 1)) (by omega)
    rw [hlater, List.getElem?_eq_getElem hk, heq]
  · intro h
    refine ⟨by simp, ?_⟩
    intro j hj heq
    obtain ⟨k, rfl⟩ : ∃ k, j = earlier.length + (k + 1) := ⟨j - earlier.length - 1, by omega⟩
    rw [hlater] at heq
    exact h (List.mem_of_getElem? heq)

/-- A name that stands somewhere has a first and a last position. -/
theorem exists_firstAt_lastAt (h : name ∈ names) :
    (∃ i, FirstAt names name i) ∧ ∃ j, LastAt names name j := by
  constructor
  · obtain ⟨earlier, later, rfl, hearlier⟩ := List.eq_append_cons_of_mem h
    exact ⟨_, firstAt_append_iff.mpr hearlier⟩
  · obtain ⟨later, earlier, hsplit, hlater⟩ :=
      List.eq_append_cons_of_mem (List.mem_reverse.mpr h)
    obtain rfl : names = earlier.reverse ++ name :: later.reverse := by
      rw [← List.reverse_reverse names, hsplit]
      simp
    exact ⟨_, lastAt_append_iff.mpr (by simpa using hlater)⟩

theorem LastAt.unique (hi : LastAt names name i) (hj : LastAt names name j) : i = j := by
  obtain hlt | heq | hlt := Nat.lt_trichotomy i j
  · exact absurd hj.1 (hi.2 j hlt)
  · exact heq
  · exact absurd hi.1 (hj.2 i hlt)

/-- Where no name is repeated, a name's first position is its last. -/
theorem firstIsLast_of_nodup (h : names.Nodup) (values : List String) :
    FirstIsLast names values := by
  intro name i j hi hj
  obtain ⟨hlt, -⟩ := List.getElem?_eq_some_iff.mp hi.1
  rw [(List.getElem?_inj hlt h).mp (hi.1.trans hj.1.symm)]

end Positions

/-! ### Labels by position -/

section Pairs

variable {pairs : List (String × String)} {name value : String} {i : Nat}

theorem getElem?_pairs (hname : (pairs.map Prod.fst)[i]? = some name)
    (hvalue : (pairs.map Prod.snd)[i]? = some value) : pairs[i]? = some (name, value) := by
  rw [List.getElem?_map, Option.map_eq_some_iff] at hname hvalue
  obtain ⟨p, hp, rfl⟩ := hname
  obtain ⟨q, hq, rfl⟩ := hvalue
  obtain rfl : p = q := Option.some.inj (hp.symm.trans hq)
  exact hp

theorem lookup_eq_some_iff :
    pairs.lookup name = some value ↔
      ∃ i, FirstAt (pairs.map Prod.fst) name i ∧ (pairs.map Prod.snd)[i]? = some value := by
  rw [List.lookup_eq_some_iff]
  constructor
  · intro h
    obtain ⟨earlier, later, rfl, hearlier⟩ := h
    refine ⟨(earlier.map Prod.fst).length, ?_, by simp⟩
    rw [List.map_append, List.map_cons, firstAt_append_iff]
    intro hmem
    obtain ⟨p, hp, rfl⟩ := List.mem_map.mp hmem
    simpa using hearlier p hp
  · intro h
    obtain ⟨i, hfirst, hvalue⟩ := h
    obtain ⟨earlier, later, rfl, rfl⟩ := exists_split (getElem?_pairs hfirst.1 hvalue)
    rw [List.map_append, List.map_cons, ← List.length_map Prod.fst, firstAt_append_iff] at hfirst
    refine ⟨earlier, later, rfl, ?_⟩
    intro p hp
    rw [bne_iff_ne]
    intro heq
    have hname : p.1 ∈ earlier.map Prod.fst := List.mem_map_of_mem hp
    exact hfirst (heq ▸ hname)

theorem isLast_iff :
    IsLast pairs name value ↔
      ∃ i, LastAt (pairs.map Prod.fst) name i ∧ (pairs.map Prod.snd)[i]? = some value := by
  constructor
  · intro h
    obtain ⟨earlier, later, rfl, hlater⟩ := h
    refine ⟨(earlier.map Prod.fst).length, ?_, by simp⟩
    rw [List.map_append, List.map_cons, lastAt_append_iff]
    intro hmem
    obtain ⟨p, hp, heq⟩ := List.mem_map.mp hmem
    exact hlater p hp heq
  · intro h
    obtain ⟨i, hlast, hvalue⟩ := h
    obtain ⟨earlier, later, rfl, rfl⟩ := exists_split (getElem?_pairs hlast.1 hvalue)
    rw [List.map_append, List.map_cons, ← List.length_map Prod.fst, lastAt_append_iff] at hlast
    refine ⟨earlier, later, rfl, ?_⟩
    intro p hp heq
    have hname : p.1 ∈ later.map Prod.fst := List.mem_map_of_mem hp
    exact hlast (heq ▸ hname)

end Pairs

/-! ### Samples -/

section Samples

variable {s : Sample} {m : Metric} {x : Binary64} {name value : String} {values : List String}

theorem ofValues_eq_ok_iff :
    ofValues m x values = .ok s ↔ s.metric = m ∧ s.value = x ∧ s.labelValues = values := by
  unfold ofValues
  constructor
  · intro h
    split at h
    · cases h
      exact ⟨rfl, rfl, rfl⟩
    · cases h
  · intro h
    obtain ⟨metric, labelValues, gauge, aligned⟩ := s
    obtain ⟨rfl, rfl, rfl⟩ := h
    exact dif_pos aligned

theorem ofValues_eq_error_iff {f : Fault} :
    ofValues m x values = .error f ↔
      values.length ≠ m.labelNames.length ∧
        f = .labelCount m.name m.labelNames.length values.length := by
  unfold ofValues
  split
  · rename_i h
    simp [h]
  · rename_i h
    simp [h, eq_comm]

theorem map_labels (s : Sample) :
    s.labels.map Prod.fst = s.metric.labelNames ∧ s.labels.map Prod.snd = s.labelValues :=
  ⟨List.map_fst_zip s.aligned.ge, List.map_snd_zip s.aligned.le⟩

/-- A position of a label name is one of a value. -/
theorem exists_value {i : Nat} (h : s.metric.labelNames[i]? = some name) :
    ∃ value, s.labelValues[i]? = some value := by
  obtain ⟨hlt, -⟩ := List.getElem?_eq_some_iff.mp h
  exact ⟨_, List.getElem?_eq_getElem (s.aligned.symm ▸ hlt)⟩

theorem label?_eq_some_iff :
    s.label? name = some value ↔
      ∃ i, FirstAt s.metric.labelNames name i ∧ s.labelValues[i]? = some value := by
  rw [label?, lookup_eq_some_iff, s.map_labels.1, s.map_labels.2]

theorem isLast_labels_iff :
    IsLast s.labels name value ↔
      ∃ i, LastAt s.metric.labelNames name i ∧ s.labelValues[i]? = some value := by
  rw [isLast_iff, s.map_labels.1, s.map_labels.2]

/-- A look-up by name finds the value at the name's first position, and nothing for other names. -/
structure FindsFirst (s : Sample) : Prop where
  found : ∀ name i, FirstAt s.metric.labelNames name i →
    ∃ value, s.labelValues[i]? = some value ∧ s.label? name = some value
  none_iff : ∀ name, s.label? name = none ↔ name ∉ s.metric.labelNames

theorem findsFirst (s : Sample) : FindsFirst s where
  found := by
    intro name i hi
    obtain ⟨value, hvalue⟩ := exists_value hi.1
    exact ⟨value, hvalue, label?_eq_some_iff.mpr ⟨i, hi, hvalue⟩⟩
  none_iff := by
    intro name
    constructor
    · intro hnone hmem
      obtain ⟨i, hi⟩ := (exists_firstAt_lastAt hmem).1
      obtain ⟨value, hvalue⟩ := exists_value hi.1
      rw [label?_eq_some_iff.mpr ⟨i, hi, hvalue⟩] at hnone
      cases hnone
    · intro hmem
      rw [Option.eq_none_iff_forall_ne_some]
      intro value hvalue
      obtain ⟨i, hi, -⟩ := label?_eq_some_iff.mp hvalue
      exact hmem (List.mem_of_getElem? hi.1)

/-- The line has every label name with its value, in the metric's order and nothing else in its
braces; a reader finds these labels where the names are legible. -/
def ShowsAll (s : Sample) : Prop :=
  ∃ pairs : List (String × String),
    pairs.map Prod.fst = s.metric.labelNames ∧ pairs.map Prod.snd = s.labelValues ∧
      s.text.toList =
        s.name.toList ++
          (if pairs = [] then []
            else '{' :: ([','].intercalate (pairs.map Exposition.labelText) ++ ['}'])) ++
          ' ' :: s.value.expose ∧
      (Exposition.Legible s.metric → Exposition.readLine s.text.toList =
        some (.sample s.name pairs (String.ofList s.value.expose)))

theorem showsAll (s : Sample) : ShowsAll s := by
  refine ⟨s.labels, s.map_labels.1, s.map_labels.2, ?_, ?_⟩
  · rw [text, String.toList_ofList, Exposition.line, Exposition.labelsText]
    simp only [List.isEmpty_iff]
  · intro hlegible
    rw [text, String.toList_ofList]
    exact Exposition.readLine_line hlegible

/-- An object of labels has every label name once, with the value at the name's last position. -/
structure KeepsLast (s : Sample) (members : List (String × Json.Value)) : Prop where
  increasing : members.Pairwise fun a b => Text.Utf8.bytes a.1 < Text.Utf8.bytes b.1
  kept : ∀ name v, (name, v) ∈ members ↔
    ∃ i value, LastAt s.metric.labelNames name i ∧ s.labelValues[i]? = some value ∧ v = .text value

/-- An object of labels has for each name what a look-up of that name finds. -/
def Agrees (s : Sample) (members : List (String × Json.Value)) : Prop :=
  ∀ name value, (name, .text value) ∈ members ↔ s.label? name = some value

theorem KeepsLast.of_recorded {members : List (String × Json.Value)}
    (h : LabelsRecorded s.labels members) : KeepsLast s members where
  increasing := h.increasing
  kept := by
    intro name v
    rw [h.last]
    simp only [isLast_labels_iff]
    constructor
    · intro hv
      obtain ⟨value, rfl, i, hlast, hvalue⟩ := hv
      exact ⟨i, value, hlast, hvalue, rfl⟩
    · intro hv
      obtain ⟨i, value, hlast, hvalue, rfl⟩ := hv
      exact ⟨value, rfl, i, hlast, hvalue⟩

theorem KeepsLast.mem_text_iff {members : List (String × Json.Value)} (h : KeepsLast s members) :
    (name, .text value) ∈ members ↔
      ∃ j, LastAt s.metric.labelNames name j ∧ s.labelValues[j]? = some value := by
  rw [h.kept]
  constructor
  · intro hv
    obtain ⟨j, value', hlast, hvalue, heq⟩ := hv
    cases heq
    exact ⟨j, hlast, hvalue⟩
  · intro hv
    obtain ⟨j, hlast, hvalue⟩ := hv
    exact ⟨j, value, hlast, hvalue, rfl⟩

/-- A look-up and the object agree exactly where first and last values do. -/
theorem KeepsLast.agrees_iff {members : List (String × Json.Value)} (h : KeepsLast s members) :
    Agrees s members ↔ FirstIsLast s.metric.labelNames s.labelValues := by
  constructor
  · intro hagrees name i j hi hj
    obtain ⟨value, hvalue, hfound⟩ := s.findsFirst.found name i hi
    obtain ⟨j', hj', hvalue'⟩ := h.mem_text_iff.mp ((hagrees name value).mpr hfound)
    rw [hj.unique hj', hvalue, hvalue']
  · intro hsame name value
    rw [h.mem_text_iff, label?_eq_some_iff]
    constructor
    · intro hv
      obtain ⟨j, hj, hvalue⟩ := hv
      obtain ⟨i, hi⟩ := (exists_firstAt_lastAt (List.mem_of_getElem? hj.1)).1
      exact ⟨i, hi, (hsame name i j hi hj).trans hvalue⟩
    · intro hv
      obtain ⟨i, hi, hvalue⟩ := hv
      obtain ⟨j, hj⟩ := (exists_firstAt_lastAt (List.mem_of_getElem? hi.1)).2
      exact ⟨j, hj, (hsame name i j hi hj).symm.trans hvalue⟩

end Samples

theorem nodup_labelNames : ∀ m ∈ Schema.all, m.labelNames.Nodup := by decide

/-- **A look-up finds the first label of a name, the line shows all labels, and the JSON object
keeps the last.** A sample is made exactly where there are as many values as label names, and then
none of these goes wrong. The look-up and the object agree exactly where the first and the last
value of each name are the same, as they are in all metrics of the card collector: these repeat no
name, and a survey has samples of no others. -/
theorem label_views (m : Metric) (x : Binary64) (values : List String) :
    ((∃ s, ofValues m x values = .ok s) ↔ values.length = m.labelNames.length) ∧
      (∀ f, ofValues m x values = .error f ↔ values.length ≠ m.labelNames.length ∧
        f = .labelCount m.name m.labelNames.length values.length) ∧
      (∀ s, ofValues m x values = .ok s →
        (s.metric = m ∧ s.value = x ∧ s.labelValues = values) ∧ FindsFirst s ∧ ShowsAll s ∧
          ∃ members gauge,
            Json.read s.json.render = some (.object [("name", .text m.name),
              ("labels", .object members), ("value", gauge)]) ∧
            KeepsLast s members ∧
            (Agrees s members ↔ FirstIsLast m.labelNames values) ∧
            (m.labelNames.Nodup → Agrees s members)) ∧
      (∀ m ∈ Schema.all, m.labelNames.Nodup) ∧
      ∀ source samples, (Collector.survey source).outcome = .ok samples →
        ∀ s ∈ samples, s.metric ∈ Schema.all := by
  refine ⟨?_, fun f => ofValues_eq_error_iff, ?_, nodup_labelNames, ?_⟩
  · constructor
    · intro h
      obtain ⟨s, hs⟩ := h
      obtain ⟨rfl, -, rfl⟩ := ofValues_eq_ok_iff.mp hs
      exact s.aligned
    · intro h
      exact ⟨⟨m, values, x, h⟩, ofValues_eq_ok_iff.mpr ⟨rfl, rfl, rfl⟩⟩
  · intro s hs
    obtain ⟨rfl, rfl, rfl⟩ := ofValues_eq_ok_iff.mp hs
    obtain ⟨v, hread, hv⟩ := s.json.read_render
    obtain ⟨members, gauge, rfl, hrecorded, -⟩ := isRecorded_of_denotes hv
    have hkeeps := KeepsLast.of_recorded hrecorded
    exact ⟨⟨rfl, rfl, rfl⟩, s.findsFirst, s.showsAll, members, gauge, hread, hkeeps,
      hkeeps.agrees_iff, fun h => hkeeps.agrees_iff.mpr (firstIsLast_of_nodup h _)⟩
  · intro source samples hsurvey s hs
    obtain ⟨cards, stats, -, -, rfl⟩ := Collector.survey_eq_ok_iff.mp hsurvey
    exact Collector.metric_mem_all hs

/-- A repeated name is looked up at its first position and recorded at its last. -/
example :
    let s : Sample := ⟨⟨"m", "", ["b", "a", "b"]⟩, ["1", "2", "3"], .zero, rfl⟩
    s.label? "b" = some "1" ∧ s.labelObject = [("a", "2"), ("b", "3")] := by
  decide

end CardTelemetry.Sample
