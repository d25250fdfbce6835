import CardTelemetry.Files.Path
import CardTelemetry.Proofs.Text.Ascii

/-!
# Paths as they are shown

A path below a root is shown as the root was given, and then name by name. Slashes are ASCII,
so this holds also of roots and names that are not UTF-8; what a path leads to is not considered.
-/

namespace CardTelemetry.Files.Path

open Text.Utf8 (lossy lossy_append_ascii)

/-- The path of names below a root. -/
def below (root : Path) (names : List Name) : Path := names.foldl join root

/-- What stands between a root and the names below it. -/
def gap (root : Path) : String := if root = [] ∨ root.getLast? = some slash then "" else "/"

/-- The root as it was given, and the names below it with slashes between them. -/
def spelled (root : Path) (names : List Name) : String :=
  text root ++ gap root ++ "/".intercalate (names.map lossy)

/-- A name that a slash follows when there are names below it. -/
def NeedsSlash (n : Name) : Prop := n ≠ [] ∧ n.getLast? ≠ some slash

theorem text_append_slash (p : Path) (n : Name) : text (p ++ slash :: n) = text p ++ "/" ++ lossy n := by
  have hslash : slash.toNat < 0x80 := by decide
  exact lossy_append_ascii hslash p n

theorem text_join (p : Path) (n : Name) : text (join p n) = text p ++ gap p ++ lossy n := by
  unfold join gap
  by_cases hp : p = [] ∨ p.getLast? = some slash
  · rw [if_pos hp, if_pos hp, String.append_empty]
    obtain rfl | hlast := hp
    · rw [List.nil_append]
      show lossy n = "" ++ lossy n
      rw [String.empty_append]
    · obtain ⟨above, rfl⟩ := List.getLast?_eq_some_iff.mp hlast
      have habove : text (above ++ [slash]) = text above ++ "/" := by
        have h := text_append_slash above []
        rwa [show lossy [] = "" from rfl, String.append_empty] at h
      rw [List.append_assoc, List.singleton_append, text_append_slash, habove]
  · rw [if_neg hp, if_neg hp, text_append_slash]

theorem join_of_needsSlash {p : Path} (h : NeedsSlash p) (n : Name) : join p n = p ++ slash :: n := by
  rw [join, if_neg]
  intro hp
  obtain hp | hp := hp
  · exact h.1 hp
  · exact h.2 hp

theorem needsSlash_join {n : Name} (h : NeedsSlash n) (p : Path) : NeedsSlash (join p n) := by
  obtain ⟨hne, hlast⟩ := h
  unfold join
  split
  · refine ⟨List.append_ne_nil_of_right_ne_nil p hne, ?_⟩
    rwa [List.getLast?_append_of_ne_nil p hne]
  · refine ⟨by simp, ?_⟩
    have h := List.getLast?_append_of_ne_nil (p ++ [slash]) hne
    rw [List.append_assoc, List.singleton_append] at h
    rwa [h]

theorem gap_join {n : Name} (h : NeedsSlash n) (p : Path) : gap (join p n) = "/" := by
  obtain ⟨hne, hlast⟩ := needsSlash_join h p
  rw [gap, if_neg]
  intro h
  obtain h | h := h
  · exact hne h
  · exact hlast h

/-- A path below a root is shown as the root was given, and then name by name. -/
theorem text_below (root : Path) {names : List Name} (hne : names ≠ [])
    (hnames : ∀ n ∈ names.dropLast, NeedsSlash n) : text (below root names) = spelled root names := by
  induction names generalizing root with
  | nil => exact absurd rfl hne
  | cons n rest ih =>
    cases rest with
    | nil =>
      show text (join root n) = spelled root [n]
      rw [text_join, spelled, List.map_singleton, String.intercalate_singleton]
    | cons m rest =>
      have hn : NeedsSlash n := hnames n List.mem_cons_self
      have hrest : ∀ k ∈ (m :: rest).dropLast, NeedsSlash k :=
        fun k hk => hnames k (List.mem_cons_of_mem n hk)
      show text (below (join root n) (m :: rest)) = _
      rw [ih (join root n) (List.cons_ne_nil m rest) hrest, spelled, spelled, text_join,
        gap_join hn, List.map_cons, List.map_cons, List.map_cons, String.intercalate_cons_cons]
      simp only [String.append_assoc]

/-! ### Different paths -/

/-- Names are joined to a path one after another, or to each other first. -/
theorem join_join {n : Name} (hn : n ≠ []) (p : Path) (m : Name) :
    join (join p n) m = join p (join n m) := by
  have hends (q : Path) : (q ++ n = [] ∨ (q ++ n).getLast? = some slash) ↔
      (n = [] ∨ n.getLast? = some slash) := by
    rw [List.getLast?_append_of_ne_nil q hn]
    simp [hn]
  have hstart : ∃ q : Path, ∀ x, join p x = q ++ x := by
    unfold join
    split
    · exact ⟨p, fun _ => rfl⟩
    · exact ⟨p ++ [slash], fun x => by rw [List.append_assoc, List.singleton_append]⟩
  obtain ⟨q, hq⟩ := hstart
  rw [hq, hq, join, join]
  simp only [hends]
  split <;> exact List.append_assoc q n _

theorem join_inj {p : Path} {m n : Name} : join p m = join p n ↔ m = n := by
  unfold join
  split <;> simp

theorem length_lt_join {n : Name} (hn : n ≠ []) (p : Path) : p.length < (join p n).length := by
  have hpos : 0 < n.length := List.length_pos_iff.mpr hn
  unfold join
  split
  · rw [List.length_append]
    omega
  · rw [List.length_append, List.length_cons]
    omega

theorem ofString_inj {s t : String} : ofString s = ofString t ↔ s = t := by
  constructor
  · intro h
    rw [← Text.Utf8.lossy_bytes s, ← Text.Utf8.lossy_bytes t]
    exact congrArg lossy h
  · exact congrArg ofString

theorem head?_join {p : Path} (hp : p ≠ []) (n : Name) : (join p n).head? = p.head? := by
  unfold join
  split <;> exact List.head?_append_of_ne_nil p hp

/-- What stands before the first of a byte, and what after it, is told by the whole. -/
theorem append_cons_inj {c : UInt8} {a b x y : Path} (ha : c ∉ a) (hb : c ∉ b) :
    a ++ c :: x = b ++ c :: y ↔ a = b ∧ x = y := by
  induction a generalizing b with
  | nil =>
    cases b with
    | nil => simp
    | cons d b =>
      rw [List.mem_cons, not_or] at hb
      simp [hb.1]
  | cons e a ih =>
    rw [List.mem_cons, not_or] at ha
    cases b with
    | nil => simp [Ne.symm ha.1]
    | cons d b =>
      rw [List.mem_cons, not_or] at hb
      rw [List.cons_append, List.cons_append, List.cons_eq_cons, List.cons_eq_cons, ih ha.2 hb.2,
        and_assoc]

end CardTelemetry.Files.Path
