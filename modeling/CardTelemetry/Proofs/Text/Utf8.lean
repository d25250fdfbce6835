import CardTelemetry.Text.Utf8
import Mathlib.Algebra.Ring.Nat
import Mathlib.Data.List.Basic

/-!
# Decoding undoes encoding

The bytes of a text decode to the text, so what is UTF-8 is shown as it is. Of other bytes the
lossy text does not tell them apart in general. It does where it shows only ASCII characters:
a byte above `7F` always leaves a character above `7F`, be it one of its own or the
replacement character.
-/

namespace CardTelemetry.Text.Utf8

theorem bytes_eq (s : String) : bytes s = s.toList.flatMap String.utf8EncodeChar := by
  rw [bytes, ← String.utf8Encode_toList, List.utf8Encode, List.data_toByteArray]

theorem bytes_append (s t : String) : bytes (s ++ t) = bytes s ++ bytes t := by
  rw [bytes_eq, bytes_eq, bytes_eq, String.toList_append, List.flatMap_append]

/-! ### One character -/

theorem begin?_ascii {b : Nat} (h : b ≤ 0x7F) : begin? b = some ⟨0, 0, 0, b⟩ := if_pos h

theorem begin?_two {b : Nat} (h : 0xC2 ≤ b) (h' : b ≤ 0xDF) :
    begin? b = some ⟨1, 0x80, 0xBF, b - 0xC0⟩ := by
  rw [begin?, if_neg (by omega), if_pos ⟨h, h'⟩]

theorem begin?_three {b : Nat} (h : 0xE0 ≤ b) (h' : b ≤ 0xEF) :
    begin? b = some ⟨2, if b = 0xE0 then 0xA0 else 0x80, if b = 0xED then 0x9F else 0xBF,
      b - 0xE0⟩ := by
  rw [begin?, if_neg (by omega), if_neg (by omega)]
  by_cases h0 : b = 0xE0
  · simp [h0]
  · by_cases hD : b = 0xED
    · simp [hD]
    · rw [if_neg h0, if_neg hD, if_pos (by omega), if_neg h0, if_neg hD]

theorem begin?_four {b : Nat} (h : 0xF0 ≤ b) (h' : b ≤ 0xF4) :
    begin? b = some ⟨3, if b = 0xF0 then 0x90 else 0x80, if b = 0xF4 then 0x8F else 0xBF,
      b - 0xF0⟩ := by
  rw [begin?, if_neg (by omega), if_neg (by omega), if_neg (by omega), if_neg (by omega),
    if_neg (by omega)]
  by_cases h0 : b = 0xF0
  · simp [h0]
  · by_cases h4 : b = 0xF4
    · simp [h4]
    · rw [if_neg h0, if_pos (by omega), if_neg h0, if_neg h4]

theorem decodeFrom_begin {b : UInt8} {g : Begun} (h : begin? b.toNat = some g) (ho : g.owed ≠ 0)
    (rest : List UInt8) : decodeFrom none (b :: rest) = decodeFrom (some g) rest := by
  rw [decodeFrom, h]
  exact if_neg ho

theorem decodeFrom_add {g : Begun} {b : UInt8} (h : g.low ≤ b.toNat ∧ b.toNat ≤ g.high)
    (ho : g.owed ≠ 1) (rest : List UInt8) :
    decodeFrom (some g) (b :: rest) = decodeFrom (some (g.add b.toNat)) rest := by
  rw [decodeFrom, if_pos h, if_neg ho]

theorem decodeFrom_last {g : Begun} {b : UInt8} (h : g.low ≤ b.toNat ∧ b.toNat ≤ g.high)
    (ho : g.owed = 1) (rest : List UInt8) :
    decodeFrom (some g) (b :: rest) =
      some (Char.ofNat (g.add b.toNat).value) :: decodeFrom none rest := by
  rw [decodeFrom, if_pos h, if_pos ho]

theorem toNat_ofNat {n : Nat} (h : n < 256) : (UInt8.ofNat n).toNat = n := by
  rw [UInt8.toNat_ofNat', Nat.mod_eq_of_lt h]

/-- The bytes of a character decode to it, whatever follows them. -/
theorem decodeFrom_utf8EncodeChar (c : Char) (rest : List UInt8) :
    decodeFrom none (String.utf8EncodeChar c ++ rest) = some c :: decodeFrom none rest := by
  have hvalid : c.toNat < 0xD800 ∨ 0xDFFF < c.toNat ∧ c.toNat < 0x110000 := c.valid
  have hchar {n : Nat} (hn : n = c.toNat) : some (Char.ofNat n) = some c := by
    rw [hn, Char.ofNat_toNat]
  have hv : c.val.toNat = c.toNat := rfl
  generalize hn : c.toNat = n at hvalid hchar hv
  unfold String.utf8EncodeChar
  simp only [hv]
  split
  · -- one byte
    have hb := toNat_ofNat (n := n) (by omega)
    rw [List.singleton_append, decodeFrom, hb, begin?_ascii (by omega)]
    simp [hchar rfl]
  · split
    · -- two bytes
      have hb := toNat_ofNat (n := n / 64 % 0x20 + 0xC0) (by omega)
      have hb' := toNat_ofNat (n := n % 0x40 + 0x80) (by omega)
      have hg := begin?_two (b := (UInt8.ofNat (n / 64 % 0x20 + 0xC0)).toNat) (by omega) (by omega)
      rw [List.cons_append, List.singleton_append, decodeFrom_begin hg (by simp),
        decodeFrom_last (by simp only; omega) rfl, hchar]
      simp only [Begun.add]
      omega
    · split
      · -- three bytes
        have hb := toNat_ofNat (n := n / 4096 % 0x10 + 0xE0) (by omega)
        have hb' := toNat_ofNat (n := n / 64 % 0x40 + 0x80) (by omega)
        have hb'' := toNat_ofNat (n := n % 0x40 + 0x80) (by omega)
        have hg := begin?_three (b := (UInt8.ofNat (n / 4096 % 0x10 + 0xE0)).toNat) (by omega)
          (by omega)
        rw [List.cons_append, List.cons_append, List.singleton_append,
          decodeFrom_begin hg (by simp), decodeFrom_add (by simp only; split <;> split <;> omega)
          (by simp), decodeFrom_last (by simp only [Begun.add]; omega) rfl, hchar]
        simp only [Begun.add]
        omega
      · -- four bytes
        have hb := toNat_ofNat (n := n / 262144 % 0x08 + 0xF0) (by omega)
        have hb' := toNat_ofNat (n := n / 4096 % 0x40 + 0x80) (by omega)
        have hb'' := toNat_ofNat (n := n / 64 % 0x40 + 0x80) (by omega)
        have hb''' := toNat_ofNat (n := n % 0x40 + 0x80) (by omega)
        have hg := begin?_four (b := (UInt8.ofNat (n / 262144 % 0x08 + 0xF0)).toNat) (by omega)
          (by omega)
        rw [List.cons_append, List.cons_append, List.cons_append, List.singleton_append,
          decodeFrom_begin hg (by simp), decodeFrom_add (by simp only; split <;> split <;> omega)
          (by simp), decodeFrom_add (by simp only [Begun.add]; omega) (by simp [Begun.add]),
          decodeFrom_last (by simp only [Begun.add]; omega) rfl, hchar]
        simp only [Begun.add]
        omega

theorem decode_bytes (s : String) : decode (bytes s) = s.toList.map some := by
  rw [decode, bytes_eq]
  induction s.toList with
  | nil => rfl
  | cons c cs ih => rw [List.flatMap_cons, decodeFrom_utf8EncodeChar, ih, List.map_cons]

/-- What is text is shown as it is. -/
theorem lossy_bytes (s : String) : lossy (bytes s) = s := by
  rw [lossy, decode_bytes, List.map_map]
  change String.ofList (s.toList.map id) = s
  rw [List.map_id, String.ofList_toList]

theorem bytes_injective : Function.Injective bytes :=
  Function.LeftInverse.injective lossy_bytes

/-! ### Bytes above `7F` -/

/-- The least code point that a character begun can still have. -/
def Begun.least (g : Begun) : Nat := (64 * g.value + (g.low - 0x80)) * 64 ^ (g.owed - 1)

/-- The greatest code point that a character begun can still have. -/
def Begun.greatest (g : Begun) : Nat :=
  (64 * g.value + (g.high - 0x80)) * 64 ^ (g.owed - 1) + (64 ^ (g.owed - 1) - 1)

/-- A character begun can only become one beyond ASCII. -/
structure Begun.BeyondAscii (g : Begun) : Prop where
  owed : g.owed = 1 ∨ g.owed = 2 ∨ g.owed = 3
  low : 0x80 ≤ g.low
  high : g.high ≤ 0xBF
  least : 0x80 ≤ g.least
  valid : g.greatest < 0xD800 ∨ 0xDFFF < g.least ∧ g.greatest < 0x110000

theorem Begun.BeyondAscii.owed_ne_zero {g : Begun} (h : g.BeyondAscii) : g.owed ≠ 0 := by
  have howed := h.owed
  omega

theorem beyondAscii_of_begin? {b : Nat} {g : Begun} (h : begin? b = some g) :
    (g.owed = 0 ∧ b ≤ 0x7F ∧ g.value = b) ∨ g.BeyondAscii := by
  by_cases h1 : b ≤ 0x7F
  · rw [begin?_ascii h1] at h
    cases h
    exact .inl ⟨rfl, h1, rfl⟩
  · right
    by_cases h2 : 0xC2 ≤ b ∧ b ≤ 0xDF
    · rw [begin?_two h2.1 h2.2] at h
      cases h
      refine ⟨.inl rfl, Nat.le_refl _, Nat.le_refl _, ?_, .inl ?_⟩
      all_goals
        simp only [Begun.least, Begun.greatest]
        omega
    · by_cases h3 : 0xE0 ≤ b ∧ b ≤ 0xEF
      · rw [begin?_three h3.1 h3.2] at h
        cases h
        refine ⟨.inr (.inl rfl), ?_, ?_, ?_, ?_⟩
        all_goals
          simp only [Begun.least, Begun.greatest]
          split_ifs <;> omega
      · by_cases h4 : 0xF0 ≤ b ∧ b ≤ 0xF4
        · rw [begin?_four h4.1 h4.2] at h
          cases h
          refine ⟨.inr (.inr rfl), ?_, ?_, ?_, ?_⟩
          all_goals
            simp only [Begun.least, Begun.greatest]
            split_ifs <;> omega
        · simp only [begin?] at h
          split_ifs at h <;> omega

/-- One more byte keeps a character begun beyond ASCII. -/
theorem Begun.BeyondAscii.add {g : Begun} (h : g.BeyondAscii) {b : Nat}
    (hb : g.low ≤ b ∧ b ≤ g.high) (ho : g.owed ≠ 1) : (g.add b).BeyondAscii := by
  obtain ⟨howed, hlow, hhigh, hleast, hvalid⟩ := h
  simp only [Begun.least, Begun.greatest] at hleast hvalid
  rcases howed with h1 | h2 | h3
  · exact absurd h1 ho
  · rw [h2] at hleast hvalid
    refine ⟨.inl (by rw [Begun.add, h2]), Nat.le_refl _, Nat.le_refl _, ?_, ?_⟩
    all_goals
      simp only [Begun.least, Begun.greatest, Begun.add, h2]
      omega
  · rw [h3] at hleast hvalid
    refine ⟨.inr (.inl (by rw [Begun.add, h3])), Nat.le_refl _, Nat.le_refl _, ?_, ?_⟩
    all_goals
      simp only [Begun.least, Begun.greatest, Begun.add, h3]
      omega

theorem toNat_charOfNat {n : Nat} (h : n.isValidChar) : (Char.ofNat n).toNat = n := by
  rw [Char.ofNat, dif_pos h]
  rfl

theorem Begun.BeyondAscii.last {g : Begun} (h : g.BeyondAscii) {b : Nat}
    (hb : g.low ≤ b ∧ b ≤ g.high) (ho : g.owed = 1) :
    0x80 ≤ (Char.ofNat (g.add b).value).toNat := by
  obtain ⟨-, hlow, hhigh, hleast, hvalid⟩ := h
  simp only [Begun.least, Begun.greatest, ho] at hleast hvalid
  have hchar : (g.add b).value.isValidChar := by
    simp only [Nat.isValidChar, Begun.add]
    omega
  rw [toNat_charOfNat hchar, Begun.add]
  simp only
  omega

/-- What a broken part or a character is shown as. -/
def shownAs (c : Option Char) : Char := c.getD replacement

theorem shownAs_some (c : Char) : shownAs (some c) = c := rfl

theorem shownAs_none : 0x80 ≤ (shownAs none).toNat := by simp [shownAs, replacement]

/-- Inside a character begun the next thing shown is beyond ASCII. -/
theorem head_beyondAscii {g : Begun} (h : g.BeyondAscii) (bs : List UInt8) :
    ∃ c rest, decodeFrom (some g) bs = c :: rest ∧ 0x80 ≤ (shownAs c).toNat := by
  induction bs generalizing g with
  | nil => exact ⟨none, [], rfl, shownAs_none⟩
  | cons b bs ih =>
    by_cases hb : g.low ≤ b.toNat ∧ b.toNat ≤ g.high
    · by_cases ho : g.owed = 1
      · refine ⟨_, _, decodeFrom_last hb ho bs, ?_⟩
        rw [shownAs_some]
        exact h.last hb ho
      · rw [decodeFrom_add hb ho]
        exact ih (h.add hb ho)
    · rw [decodeFrom, if_neg hb]
      exact ⟨none, _, rfl, shownAs_none⟩

/-- What is shown as an ASCII character is that character's byte, and the rest is read from
there. -/
theorem eq_cons_of_shown_ascii {bs : List UInt8} {c : Option Char} {cs : List (Option Char)}
    (h : decodeFrom none bs = c :: cs) (hc : (shownAs c).toNat < 0x80) :
    ∃ rest, bs = UInt8.ofNat (shownAs c).toNat :: rest ∧ decodeFrom none rest = cs := by
  cases bs with
  | nil => cases h
  | cons b bs =>
    cases hg : begin? b.toNat with
    | none =>
      simp only [decodeFrom, hg, List.cons.injEq] at h
      rw [← h.1] at hc
      exact absurd hc (Nat.not_lt.mpr shownAs_none)
    | some g =>
      rcases beyondAscii_of_begin? hg with ⟨howed, hb, hvalue⟩ | hbeyond
      · simp only [decodeFrom, hg, howed, if_true, hvalue, List.cons.injEq] at h
        have hchar : (Char.ofNat b.toNat).toNat = b.toNat := by
          apply toNat_charOfNat
          simp only [Nat.isValidChar]
          omega
        refine ⟨bs, ?_, h.2⟩
        rw [← h.1, shownAs_some, hchar, UInt8.ofNat_toNat]
      · obtain ⟨c', rest, hrest, hc'⟩ := head_beyondAscii hbeyond bs
        rw [decodeFrom_begin hg hbeyond.owed_ne_zero, hrest, List.cons.injEq] at h
        rw [h.1] at hc'
        omega

theorem decodeFrom_cons_ne_nil (b : UInt8) (bs : List UInt8) : decodeFrom none (b :: bs) ≠ [] := by
  cases hg : begin? b.toNat with
  | none => simp [decodeFrom, hg]
  | some g =>
    rcases beyondAscii_of_begin? hg with ⟨howed, -, -⟩ | hbeyond
    · simp [decodeFrom, hg, howed]
    · obtain ⟨c, rest, hrest, -⟩ := head_beyondAscii hbeyond bs
      rw [decodeFrom_begin hg hbeyond.owed_ne_zero, hrest]
      exact List.cons_ne_nil c rest

/-- Bytes that are shown as ASCII characters only are these characters' bytes. -/
theorem eq_of_decodeFrom_ascii (bs : List UInt8)
    (h : ∀ c ∈ decodeFrom none bs, (shownAs c).toNat < 0x80) :
    bs = (decodeFrom none bs).map fun c => UInt8.ofNat (shownAs c).toNat := by
  generalize hshown : decodeFrom none bs = cs at h
  induction cs generalizing bs with
  | nil =>
    cases bs with
    | nil => rfl
    | cons b bs => exact absurd hshown (decodeFrom_cons_ne_nil b bs)
  | cons c cs ih =>
    obtain ⟨rest, rfl, hrest⟩ := eq_cons_of_shown_ascii hshown (h c List.mem_cons_self)
    rw [List.map_cons, ← ih rest hrest fun c hc => h c (List.mem_cons_of_mem _ hc)]

theorem utf8EncodeChar_ascii {c : Char} (h : c.toNat < 0x80) :
    String.utf8EncodeChar c = [UInt8.ofNat c.toNat] := by
  have hv : c.val.toNat ≤ 0x7F := by
    change c.toNat ≤ 0x7F
    omega
  simp only [String.utf8EncodeChar]
  exact if_pos hv

/-- A name that is shown in ASCII is known from how it is shown. -/
theorem bytes_lossy_of_ascii {bs : List UInt8} (h : ∀ c ∈ (lossy bs).toList, c.toNat < 0x80) :
    bytes (lossy bs) = bs := by
  have hshown : (lossy bs).toList = (decode bs).map shownAs := by
    rw [lossy, String.toList_ofList]
    rfl
  rw [hshown, List.forall_mem_map] at h
  rw [bytes_eq, hshown, List.flatMap_map]
  conv_rhs => rw [eq_of_decodeFrom_ascii bs h]
  rw [← List.flatMap_singleton' ((decodeFrom none bs).map _), List.flatMap_map]
  exact List.flatMap_congr fun c hc => utf8EncodeChar_ascii (h c hc)

end CardTelemetry.Text.Utf8
