import CardTelemetry.Metric.Record
import CardTelemetry.Proofs.Json.ReadBack
import CardTelemetry.Proofs.Text.Order

/-!
# Samples are read back

The labels of a sample become an object whose keys are in strict order, each with the last value
that its label name has. So a repeated label name loses its other values, and the order of the
labels is not read back; the name and the gauge are.
-/

namespace CardTelemetry

namespace Sample

variable {key value k v : String} {object labels : List (String × String)}

/-! ### Labels by name -/

/-- The keys are in strict order, so that none is repeated. -/
def Sorted (object : List (String × String)) : Prop :=
  object.Pairwise fun a b => Text.before a.1 b.1 = true

/-- The value of the last label of a name. -/
def IsLast (labels : List (String × String)) (name value : String) : Prop :=
  ∃ earlier later, labels = earlier ++ (name, value) :: later ∧ ∀ label ∈ later, label.1 ≠ name

/-- A key that is set has its new value, and the others keep theirs. -/
theorem mem_put (h : Sorted object) :
    (k, v) ∈ put key value object ↔ (k, v) = (key, value) ∨ k ≠ key ∧ (k, v) ∈ object := by
  induction object with
  | nil => simp [put]
  | cons first rest ih =>
    obtain ⟨name, text⟩ := first
    obtain ⟨hfirst, hrest⟩ := List.pairwise_cons.mp h
    rw [put]
    split_ifs with hsame hbefore
    · subst hsame
      have hne (hmem : (k, v) ∈ rest) : k ≠ key := (Text.ne_of_before (hfirst _ hmem)).symm
      simp only [List.mem_cons, Prod.mk.injEq]
      tauto
    · have hne (hmem : (k, v) ∈ (name, text) :: rest) : k ≠ key := by
        rcases List.mem_cons.mp hmem with heq | hmem
        · rw [(Prod.mk.inj heq).1]
          exact (Text.ne_of_before hbefore).symm
        · exact (Text.ne_of_before (Text.before_trans hbefore (hfirst _ hmem))).symm
      rw [List.mem_cons]
      tauto
    · have hne (heq : (k, v) = (name, text)) : k ≠ key := by
        rw [(Prod.mk.inj heq).1]
        exact Ne.symm hsame
      rw [List.mem_cons, ih hrest, List.mem_cons]
      tauto

theorem sorted_put (h : Sorted object) : Sorted (put key value object) := by
  induction object with
  | nil => exact List.pairwise_singleton _ _
  | cons first rest ih =>
    obtain ⟨name, text⟩ := first
    obtain ⟨hfirst, hrest⟩ := List.pairwise_cons.mp h
    rw [put]
    split_ifs with hsame hbefore
    · subst hsame
      exact List.pairwise_cons.mpr ⟨hfirst, hrest⟩
    · refine List.pairwise_cons.mpr ⟨?_, h⟩
      intro member hmem
      rcases List.mem_cons.mp hmem with rfl | hmem
      · exact hbefore
      · exact Text.before_trans hbefore (hfirst member hmem)
    · refine List.pairwise_cons.mpr ⟨?_, ih hrest⟩
      rintro ⟨k, v⟩ hmem
      rcases (mem_put hrest).mp hmem with heq | ⟨-, hmem⟩
      · rw [(Prod.mk.inj heq).1]
        exact Text.before_of_not_before hbefore hsame
      · exact hfirst (k, v) hmem

theorem isLast_append_singleton :
    IsLast (labels ++ [(key, value)]) k v ↔
      (k, v) = (key, value) ∨ k ≠ key ∧ IsLast labels k v := by
  constructor
  · rintro ⟨earlier, later, heq, hlater⟩
    rcases List.eq_nil_or_concat later with rfl | ⟨later, label, rfl⟩
    · exact .inl (List.append_singleton_inj.mp heq).2.symm
    · rw [List.concat_eq_append, ← List.cons_append, ← List.append_assoc] at heq
      obtain ⟨hlabels, rfl⟩ := List.append_singleton_inj.mp heq
      refine .inr ⟨(hlater (key, value) (by simp)).symm, earlier, later, hlabels, ?_⟩
      intro label hlabel
      exact hlater label (by simp [hlabel])
  · rintro (heq | ⟨hne, earlier, later, rfl, hlater⟩)
    · obtain ⟨rfl, rfl⟩ := Prod.mk.inj heq
      exact ⟨labels, [], rfl, by simp⟩
    · refine ⟨earlier, later ++ [(key, value)], by simp, ?_⟩
      intro label hlabel
      rcases List.mem_append.mp hlabel with hlabel | hlabel
      · exact hlater label hlabel
      · rw [List.mem_singleton.mp hlabel]
        exact hne.symm

/-- The object of labels, label by label. -/
theorem labelObject_spec (s : Sample) :
    Sorted s.labelObject ∧
      ∀ name value, (name, value) ∈ s.labelObject ↔ IsLast s.labels name value := by
  unfold labelObject
  generalize s.labels = labels
  induction labels using List.reverseRecOn with
  | nil => simp [Sorted, IsLast]
  | append_singleton labels label ih =>
    obtain ⟨hsorted, hmem⟩ := ih
    obtain ⟨key, value⟩ := label
    rw [List.foldl_append, List.foldl_cons, List.foldl_nil]
    refine ⟨sorted_put hsorted, ?_⟩
    intro k v
    rw [mem_put hsorted, isLast_append_singleton, hmem]

/-! ### Samples -/

/-- An object of labels: the keys in strict order of their bytes, and each label name with the last
of its values. -/
structure LabelsRecorded (labels : List (String × String)) (members : List (String × Json.Value)) :
    Prop where
  increasing : members.Pairwise fun a b => Text.Utf8.bytes a.1 < Text.Utf8.bytes b.1
  last : ∀ name v, (name, v) ∈ members ↔ ∃ value, v = .text value ∧ IsLast labels name value

/-- An object of a sample's name, its labels and its gauge, and of nothing else. -/
def IsRecorded (s : Sample) (v : Json.Value) : Prop :=
  ∃ members gauge,
    v = .object [("name", .text s.name), ("labels", .object members), ("value", gauge)] ∧
      LabelsRecorded s.labels members ∧ Json.Gauge s.value gauge

/-- Texts are read back as they are, under their names. -/
theorem eq_of_denotes_texts {members : List (String × Json.Value)}
    (h : List.Forall₂ Json.DenotesMember (labels.map fun label => (label.1, .text label.2))
      members) :
    members = labels.map fun label => (label.1, .text label.2) := by
  rw [List.forall₂_map_left_iff] at h
  have heq : List.Forall₂ (fun label member => (label.1, Json.Value.text label.2) = member)
      labels members := by
    refine h.imp ?_
    rintro ⟨name, text⟩ member hmember
    cases hmember with
    | member _ h =>
      cases h
      rfl
  rw [← List.forall₂_map_left_iff, List.forall₂_eq_eq_eq] at heq
  exact heq.symm

theorem labelsRecorded_labelObject (s : Sample) :
    LabelsRecorded s.labels (s.labelObject.map fun label => (label.1, .text label.2)) := by
  obtain ⟨hsorted, hlast⟩ := s.labelObject_spec
  constructor
  · rw [List.pairwise_map]
    exact hsorted.imp fun h => Text.before_iff.mp h
  · intro name v
    rw [List.mem_map]
    constructor
    · rintro ⟨⟨key, value⟩, hmem, heq⟩
      obtain ⟨rfl, rfl⟩ := Prod.mk.inj heq
      exact ⟨value, rfl, (hlast key value).mp hmem⟩
    · rintro ⟨value, rfl, h⟩
      exact ⟨(name, value), (hlast name value).mpr h, rfl⟩

theorem isRecorded_of_denotes {s : Sample} {v : Json.Value} (h : Json.Denotes s.json v) :
    s.IsRecorded v := by
  unfold json at h
  cases h with
  | object h =>
    obtain - | ⟨hname, - | ⟨hlabels, - | ⟨hvalue, - | -⟩⟩⟩ := h
    obtain ⟨-, hname⟩ := hname
    obtain ⟨-, hlabels⟩ := hlabels
    obtain ⟨-, hvalue⟩ := hvalue
    cases hname with
    | text =>
      cases hlabels with
      | object hlabels =>
        cases hvalue with
        | real hgauge =>
          rw [eq_of_denotes_texts hlabels]
          exact ⟨_, _, rfl, labelsRecorded_labelObject s, hgauge⟩

theorem recorded_of_denotes_jsonList {samples : List Sample} {v : Json.Value}
    (h : Json.Denotes (jsonList samples) v) :
    ∃ items, v = .array items ∧ List.Forall₂ IsRecorded samples items := by
  unfold jsonList at h
  cases h with
  | array h =>
    rw [List.forall₂_map_left_iff] at h
    exact ⟨_, rfl, h.imp fun _ _ => isRecorded_of_denotes⟩

end Sample

end CardTelemetry
