import CardTelemetry.Proofs.Text.Utf8

/-!
# ASCII parts of what is shown

Wherever an ASCII byte stands, it is shown as its character and what stands before and after it
is shown as if it were alone. So a text shows an ASCII beginning exactly when its bytes begin
with it, and a path is shown name by name. Nothing of the kind holds of other bytes, as those
of one character may be told apart.
-/

namespace CardTelemetry.Text.Utf8

/-- An ASCII byte ends whatever was begun before it. -/
theorem decodeFrom_append_ascii {c : UInt8} (hc : c.toNat < 0x80) (begun : Option Begun)
    (hbegun : ∀ g, begun = some g → g.BeyondAscii) (bs rest : List UInt8) :
    decodeFrom begun (bs ++ c :: rest) =
      decodeFrom begun bs ++ some (Char.ofNat c.toNat) :: decodeFrom none rest := by
  have hbegin : begin? c.toNat = some ⟨0, 0, 0, c.toNat⟩ := begin?_ascii (by omega)
  induction bs generalizing begun with
  | nil =>
    cases begun with
    | none => simp [decodeFrom, hbegin]
    | some g =>
      have hlow : ¬(g.low ≤ c.toNat ∧ c.toNat ≤ g.high) := by
        have h := (hbegun g rfl).low
        omega
      simp [decodeFrom, hbegin, hlow]
  | cons b bs ih =>
    have hnone := ih none (by simp)
    -- what a byte begins is dealt with alike at a boundary and after a broken part
    have hfirst : decodeFrom none (b :: (bs ++ c :: rest)) =
        decodeFrom none (b :: bs) ++ some (Char.ofNat c.toNat) :: decodeFrom none rest := by
      cases hg : begin? b.toNat with
      | none => simp [decodeFrom, hg, hnone]
      | some g =>
        obtain ⟨howed, -, -⟩ | hbeyond := beyondAscii_of_begin? hg
        · simp [decodeFrom, hg, howed, hnone]
        · rw [decodeFrom_begin hg hbeyond.owed_ne_zero, decodeFrom_begin hg hbeyond.owed_ne_zero]
          exact ih (some g) (by simpa using hbeyond)
    cases begun with
    | none => exact hfirst
    | some g =>
      have hbeyond := hbegun g rfl
      by_cases hb : g.low ≤ b.toNat ∧ b.toNat ≤ g.high
      · by_cases howed : g.owed = 1
        · rw [List.cons_append, decodeFrom_last hb howed, decodeFrom_last hb howed, hnone,
            List.cons_append]
        · rw [List.cons_append, decodeFrom_add hb howed, decodeFrom_add hb howed]
          exact ih _ (by simpa using hbeyond.add hb howed)
      · have hbroken (rest : List UInt8) :
            decodeFrom (some g) (b :: rest) = none :: decodeFrom none (b :: rest) := by
          simp [decodeFrom, hb]
        rw [List.cons_append, hbroken, hbroken, hfirst, List.cons_append]

/-- What is shown around an ASCII character is what would be shown without it. -/
theorem lossy_append_ascii {c : UInt8} (hc : c.toNat < 0x80) (bs rest : List UInt8) :
    lossy (bs ++ c :: rest) = lossy bs ++ String.ofList [Char.ofNat c.toNat] ++ lossy rest := by
  rw [lossy, decode, decodeFrom_append_ascii hc none (by simp)]
  simp [lossy, decode, ← String.toList_inj]

/-- Bytes that begin with a text show it. -/
theorem toList_lossy_append (s : String) (rest : List UInt8) :
    (lossy (bytes s ++ rest)).toList = s.toList ++ (lossy rest).toList := by
  have hdecode (cs : List Char) :
      decodeFrom none (cs.flatMap String.utf8EncodeChar ++ rest) =
        cs.map some ++ decodeFrom none rest := by
    induction cs with
    | nil => rfl
    | cons c cs ih =>
      rw [List.flatMap_cons, List.append_assoc, decodeFrom_utf8EncodeChar, ih]
      rfl
  rw [lossy, String.toList_ofList, decode, bytes_eq, hdecode, List.map_append, List.map_map, lossy,
    String.toList_ofList]
  change s.toList.map id ++ _ = _
  rw [List.map_id]
  rfl

/-- A text begins as it is shown to begin if that is in ASCII. -/
theorem prefix_lossy_iff {cs : List Char} (hcs : ∀ c ∈ cs, c.toNat < 0x80) {bs : List UInt8} :
    cs <+: (lossy bs).toList ↔ bytes (String.ofList cs) <+: bs := by
  constructor
  · intro h
    induction cs generalizing bs with
    | nil => exact List.nil_prefix
    | cons c cs ih =>
      obtain ⟨rest, hrest⟩ := h
      have hshown : (decodeFrom none bs).map shownAs = c :: (cs ++ rest) := by
        rw [lossy, String.toList_ofList] at hrest
        exact hrest.symm
      obtain ⟨x, xs, hx, hhead, htail⟩ := List.map_eq_cons_iff.mp hshown
      obtain ⟨bs', rfl, hbs'⟩ := eq_cons_of_shown_ascii hx (hhead ▸ hcs c List.mem_cons_self)
      have hlossy : cs <+: (lossy bs').toList := by
        rw [lossy, String.toList_ofList, decode, hbs']
        exact ⟨rest, htail.symm⟩
      have hih := ih (fun c hc => hcs c (List.mem_cons_of_mem _ hc)) hlossy
      rw [bytes_eq, String.toList_ofList] at hih ⊢
      rw [List.flatMap_cons, utf8EncodeChar_ascii (hcs c List.mem_cons_self), hhead]
      exact List.prefix_cons_inj _ |>.mpr hih
  · intro h
    obtain ⟨rest, rfl⟩ := h
    rw [toList_lossy_append, String.toList_ofList]
    exact List.prefix_append _ _

end CardTelemetry.Text.Utf8
