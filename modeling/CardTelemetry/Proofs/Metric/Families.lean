import CardTelemetry.Metric.Exposition
import Mathlib.Data.List.Induction
import Mathlib.Data.List.Nodup

/-!
# Which samples stand together

Exposition text has one family for each metric name, in the order in which the names first come.
A family's members are all samples of its name in their order, wherever they stand in the list.
-/

namespace CardTelemetry.Exposition

/-! ### One sample more -/

section Enter

variable {s : Sample} {fs : List Family}

theorem name_enter (s : Sample) (fs : List Family) :
    (enter s fs).map Family.name =
      if s.name ∈ fs.map Family.name then fs.map Family.name
      else fs.map Family.name ++ [s.name] := by
  induction fs with
  | nil => rfl
  | cons f rest ih =>
    rw [enter, List.map_cons]
    by_cases hname : f.name = s.name
    · rw [if_pos hname, if_pos (by simp [hname])]
      rfl
    · rw [if_neg hname, List.map_cons, ih]
      have hmem : s.name ∈ f.name :: rest.map Family.name ↔ s.name ∈ rest.map Family.name := by
        simp [Ne.symm hname]
      by_cases hin : s.name ∈ rest.map Family.name
      · rw [if_pos hin, if_pos (hmem.mpr hin)]
      · rw [if_neg hin, if_neg (fun h => hin (hmem.mp h)), List.cons_append]

/-- A sample joins the family of its name, and no other family changes. -/
theorem members_enter (members : String → List Sample) (hnodup : (fs.map Family.name).Nodup)
    (hold : ∀ f ∈ fs, f.members = members f.name)
    (hnew : s.name ∉ fs.map Family.name → members s.name = []) {f : Family} (hf : f ∈ enter s fs) :
    f.members = members f.name ++ [s].filter fun t => t.name = f.name := by
  induction fs with
  | nil =>
    rw [enter, List.mem_singleton] at hf
    subst hf
    have hnone : members s.name = [] := hnew (by simp)
    have hname : (⟨s, []⟩ : Family).name = s.name := rfl
    rw [hname, hnone]
    simp [Family.members]
  | cons g rest ih =>
    rw [List.map_cons, List.nodup_cons] at hnodup
    rw [List.forall_mem_cons] at hold
    rw [enter] at hf
    by_cases hname : g.name = s.name
    · rw [if_pos hname, List.mem_cons] at hf
      obtain rfl | hf := hf
      · have hsame : (⟨g.first, g.others ++ [s]⟩ : Family).name = g.name := rfl
        rw [hsame, ← hold.1]
        simp [Family.members, hname]
      · have hne : s.name ≠ f.name := by
          rw [← hname]
          intro heq
          exact hnodup.1 (heq ▸ List.mem_map_of_mem hf)
        rw [hold.2 f hf]
        simp [hne]
    · rw [if_neg hname, List.mem_cons] at hf
      obtain rfl | hf := hf
      · rw [hold.1]
        simp [Ne.symm hname]
      · apply ih hnodup.2 hold.2 _ hf
        intro hin
        apply hnew
        simp [Ne.symm hname, hin]

end Enter

/-! ### All samples -/

theorem families_append (samples : List Sample) (s : Sample) :
    families (samples ++ [s]) = enter s (families samples) := by
  rw [families, List.foldl_append]
  rfl

theorem eraseDups_append_singleton (names : List String) (name : String) :
    (names ++ [name]).eraseDups =
      if name ∈ names then names.eraseDups else names.eraseDups ++ [name] := by
  rw [List.eraseDups_append]
  by_cases hin : name ∈ names
  · have hnone : [name].removeAll names = [] := by
      rw [List.removeAll, List.filter_cons_of_neg (by simpa using hin)]
      rfl
    rw [hnone, if_pos hin, List.eraseDups_nil, List.append_nil]
  · have hone : [name].removeAll names = [name] := by
      rw [List.removeAll, List.filter_cons_of_pos (by simpa using hin)]
      rfl
    rw [hone, if_neg hin]
    rfl

theorem nodup_eraseDups (names : List String) : names.eraseDups.Nodup := by
  induction names using List.reverseRecOn with
  | nil => exact .nil
  | append_singleton names name ih =>
    rw [eraseDups_append_singleton]
    split
    · exact ih
    · rename_i hnew
      exact List.nodup_append'.mpr ⟨ih, List.nodup_singleton name, by simpa using hnew⟩

theorem eraseDups_sublist (names : List String) : names.eraseDups.Sublist names := by
  induction names using List.reverseRecOn with
  | nil => exact .slnil
  | append_singleton names name ih =>
    rw [eraseDups_append_singleton]
    split
    · exact ih.trans (List.sublist_append_left names [name])
    · exact ih.append (List.Sublist.refl [name])

/-- Nothing is removed from names of which none is to go. -/
theorem removeAll_eq_self {names removed : List String} (h : ∀ n ∈ names, n ∉ removed) :
    names.removeAll removed = names := by
  rw [List.removeAll, List.filter_eq_self]
  intro n hn
  simpa using h n hn

theorem eraseDups_replicate {n : Nat} (hn : n ≠ 0) (name : String) :
    (List.replicate n name).eraseDups = [name] := by
  obtain ⟨n, rfl⟩ := Nat.exists_eq_succ_of_ne_zero hn
  have hnone : ((List.replicate n name).filter fun m => !m == name) = [] := by
    rw [List.filter_eq_nil_iff]
    intro m hm
    simp [(List.mem_replicate.mp hm).2]
  rw [List.replicate_succ, List.eraseDups_cons, hnone, List.eraseDups_nil]

/-- There is a family for each name, in the order in which the names first come. -/
theorem name_families (samples : List Sample) :
    (families samples).map Family.name = (samples.map Sample.name).eraseDups := by
  induction samples using List.reverseRecOn with
  | nil => rfl
  | append_singleton samples s ih =>
    rw [families_append, name_enter, ih, List.map_append, List.map_singleton,
      eraseDups_append_singleton]
    simp only [List.mem_eraseDups]

theorem nodup_name_families (samples : List Sample) :
    ((families samples).map Family.name).Nodup := by
  rw [name_families]
  exact nodup_eraseDups _

/-- The members of a family are all samples of its name. -/
theorem members_families {samples : List Sample} {f : Family} (hf : f ∈ families samples) :
    f.members = samples.filter fun s => s.name = f.name := by
  induction samples using List.reverseRecOn generalizing f with
  | nil => cases hf
  | append_singleton samples s ih =>
    rw [families_append] at hf
    rw [List.filter_append]
    refine members_enter (fun name => samples.filter fun s => s.name = name)
      (nodup_name_families samples) (fun g hg => ih hg) ?_ hf
    intro hnew
    rw [name_families, List.mem_eraseDups] at hnew
    rw [List.filter_eq_nil_iff]
    intro t ht hname
    exact hnew (of_decide_eq_true hname ▸ List.mem_map_of_mem ht)

/-- The lines of the samples of one name, and no line if there are no samples. -/
def blockLines : List Sample → List (List Char)
  | [] => []
  | s :: rest => Family.lines ⟨s, rest⟩

theorem lines_eq_blockLines (f : Family) : f.lines = blockLines f.members := rfl

/-- **Text is written name by name**, each with all of its samples. -/
theorem lines_families (samples : List Sample) :
    (families samples).flatMap Family.lines =
      (samples.map Sample.name).eraseDups.flatMap fun name =>
        blockLines (samples.filter fun s => s.name = name) := by
  rw [← name_families, List.flatMap_map]
  apply List.flatMap_congr
  intro f hf
  rw [lines_eq_blockLines, members_families hf]

theorem length_members_enter (s : Sample) (fs : List Family) :
    ((enter s fs).flatMap Family.members).length = (fs.flatMap Family.members).length + 1 := by
  induction fs with
  | nil => rfl
  | cons f rest ih =>
    rw [enter]
    split
    · have hmembers : (⟨f.first, f.others ++ [s]⟩ : Family).members = f.members ++ [s] := rfl
      rw [List.flatMap_cons, List.flatMap_cons, hmembers]
      simp only [List.length_append, List.length_singleton]
      omega
    · rw [List.flatMap_cons, List.flatMap_cons, List.length_append, List.length_append, ih,
        Nat.add_assoc]

/-- Every sample is a member of one family. -/
theorem length_members_families (samples : List Sample) :
    ((families samples).flatMap Family.members).length = samples.length := by
  induction samples using List.reverseRecOn with
  | nil => rfl
  | append_singleton samples s ih =>
    rw [families_append, length_members_enter, ih, List.length_append]
    rfl

end CardTelemetry.Exposition
