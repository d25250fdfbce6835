import CardTelemetry.Proofs.Decimal.Layout
import CardTelemetry.Proofs.Binary64.Rounding
import CardTelemetry.Proofs.Text.Numeral

/-!
# A reader of JSON numbers

A JSON number is a minus sign or none, digits of which a zero may only be the first if it is the
last, and perhaps a fraction and an exponent. The reader gives the decimal as it is written, without
rounding. What a finite double is laid out as is such a number, and stands for its shortest decimal.
-/

namespace CardTelemetry

namespace Json

open Text (digitsValue digitsValue_append digitsValue_zeros decimal)

/-! ### The reader -/

def isDigits (cs : List Char) : Bool := !cs.isEmpty && cs.all Char.isDigit

/-- Digits before the point. -/
def isWhole (cs : List Char) : Bool := isDigits cs && (cs.length == 1 || cs.head? != some '0')

def isExponentMark (c : Char) : Bool := c == 'e' || c == 'E'

/-- The digits of a fraction, if there is one with its point. -/
def fraction? : List Char → Option (List Char)
  | [] => some []
  | _ :: ds => if isDigits ds then some ds else none

/-- The number behind an exponent's mark, if there is one with its mark. -/
def exponent? : List Char → Option Int
  | [] => some 0
  | _ :: '+' :: ds => if isDigits ds then some (digitsValue ds) else none
  | _ :: '-' :: ds => if isDigits ds then some (-digitsValue ds) else none
  | _ :: ds => if isDigits ds then some (digitsValue ds) else none

def readUnsigned (negative : Bool) (cs : List Char) : Option Decimal :=
  let mantissa := cs.takeWhile fun c => !isExponentMark c
  let whole := mantissa.takeWhile fun c => c != '.'
  match fraction? (mantissa.dropWhile fun c => c != '.'),
    exponent? (cs.dropWhile fun c => !isExponentMark c) with
  | some fraction, some exponent =>
    if isWhole whole then
      some ⟨negative, digitsValue (whole ++ fraction), exponent - fraction.length⟩
    else none
  | _, _ => none

def readNumber : List Char → Option Decimal
  | '-' :: cs => readUnsigned true cs
  | cs => readUnsigned false cs

/-! ### Parts of a number -/

/-- Digits behind a point, or nothing. -/
def pointed : List Char → List Char
  | [] => []
  | d :: ds => '.' :: d :: ds

theorem pointed_of_ne_nil {ds : List Char} (h : ds ≠ []) : pointed ds = '.' :: ds := by
  cases ds with
  | nil => exact absurd rfl h
  | cons d ds => rfl

variable {whole fraction exponent : List Char} {e : Int}

theorem isDigits_iff {cs : List Char} :
    isDigits cs = true ↔ cs ≠ [] ∧ ∀ c ∈ cs, c.isDigit = true := by
  simp [isDigits]

theorem isDigits_of_isWhole {cs : List Char} (h : isWhole cs = true) : isDigits cs = true := by
  rw [isWhole, Bool.and_eq_true] at h
  exact h.1

/-- No digit ends the digits that it stands among. -/
theorem not_mark_of_isDigit {c : Char} (h : c.isDigit = true) :
    (!isExponentMark c) = true ∧ (c != '.') = true := by
  have hne {d : Char} (hd : d.isDigit = false) : c ≠ d := by
    rintro rfl
    rw [h] at hd
    cases hd
  have he : c ≠ 'e' := hne rfl
  have hE : c ≠ 'E' := hne rfl
  have hpoint : c ≠ '.' := hne rfl
  simp [isExponentMark, he, hE, hpoint]

theorem span_append {p : Char → Bool} {as bs : List Char} (has : ∀ c ∈ as, p c = true)
    (hbs : ∀ c ∈ bs.head?, p c = false) :
    (as ++ bs).takeWhile p = as ∧ (as ++ bs).dropWhile p = bs := by
  rw [List.takeWhile_append_of_pos has, List.dropWhile_append_of_pos has]
  cases bs with
  | nil => simp
  | cons b bs =>
    have hb : p b = false := hbs b rfl
    simp [hb]

theorem fraction?_pointed (h : ∀ c ∈ fraction, c.isDigit = true) :
    fraction? (pointed fraction) = some fraction := by
  cases fraction with
  | nil => rfl
  | cons c cs => exact if_pos (isDigits_iff.mpr ⟨List.cons_ne_nil c cs, h⟩)

/-- A number is read from its parts. -/
theorem readUnsigned_parts (negative : Bool) (hwhole : isWhole whole = true)
    (hfraction : ∀ c ∈ fraction, c.isDigit = true) (hexponent : exponent? exponent = some e)
    (hmark : ∀ c ∈ exponent.head?, isExponentMark c = true) :
    readUnsigned negative (whole ++ pointed fraction ++ exponent) =
      some ⟨negative, digitsValue (whole ++ fraction), e - fraction.length⟩ := by
  obtain ⟨-, hdigits⟩ := isDigits_iff.mp (isDigits_of_isWhole hwhole)
  have hmantissa : ∀ c ∈ whole ++ pointed fraction, (!isExponentMark c) = true := by
    rw [List.forall_mem_append]
    refine ⟨fun c hc => (not_mark_of_isDigit (hdigits c hc)).1, ?_⟩
    cases fraction with
    | nil => simp [pointed]
    | cons d ds =>
      rw [pointed, List.forall_mem_cons]
      exact ⟨rfl, fun c hc => (not_mark_of_isDigit (hfraction c hc)).1⟩
  obtain ⟨htake, hdrop⟩ := span_append hmantissa fun c hc => by rw [hmark c hc]; rfl
  have hpoint : ∀ c ∈ (pointed fraction).head?, (c != '.') = false := by
    cases fraction with
    | nil => simp [pointed]
    | cons d ds => simp [pointed]
  obtain ⟨htake', hdrop'⟩ :=
    span_append (fun c hc => (not_mark_of_isDigit (hdigits c hc)).2) hpoint
  simp only [readUnsigned, htake, hdrop, htake', hdrop', fraction?_pointed hfraction, hexponent,
    hwhole, ↓reduceIte]

/-! ### Digits -/

theorem digitsValue_lt {ds : List Char} (h : ∀ c ∈ ds, c.isDigit = true) :
    digitsValue ds < 10 ^ ds.length := by
  induction ds with
  | nil => decide
  | cons c ds ih =>
    obtain ⟨hc, hds⟩ := List.forall_mem_cons.mp h
    have hlt := ih hds
    have hnine : c.toNat - '0'.toNat ≤ 9 := by
      simp only [Char.isDigit, Bool.and_eq_true, decide_eq_true_eq] at hc
      have hle : c.toNat ≤ 57 := hc.2
      have hzero : '0'.toNat = 48 := rfl
      omega
    rw [Text.digitsValue_cons, List.length_cons, pow_succ]
    nlinarith

/-- The digits of a number do not begin with a zero, but for zero itself. -/
theorem isWhole_decimal (n : Nat) : isWhole (decimal n) = true := by
  have hdigits : ∀ c ∈ decimal n, c.isDigit = true := fun _ hc => Decimal.isDigit_of_mem_decimal hc
  have hne : decimal n ≠ [] := Nat.toDigits_ne_nil
  rw [isWhole, isDigits_iff.mpr ⟨hne, hdigits⟩, Bool.true_and, Bool.or_eq_true, beq_iff_eq,
    bne_iff_ne, or_iff_not_imp_left]
  intro hlength hhead
  obtain ⟨ds, hds⟩ := List.head?_eq_some_iff.mp hhead
  have hlt := digitsValue_lt (List.forall_mem_cons.mp (hds ▸ hdigits)).2
  have hvalue : n = digitsValue ds := by
    rw [← Text.digitsValue_decimal n, hds, Text.digitsValue_cons]
    simp
  rw [hds, List.length_cons] at hlength
  -- a number below a power of ten has fewer digits than this one
  have hfewer : (decimal n).length ≤ ds.length :=
    (Nat.length_toDigits_le_iff (by decide) (by omega)).mpr (hvalue ▸ hlt)
  rw [hds, List.length_cons] at hfewer
  omega

theorem head?_decimal {n : Nat} (hn : n ≠ 0) : (decimal n).head? ≠ some '0' := by
  have hwhole := isWhole_decimal n
  rw [isWhole, Bool.and_eq_true, Bool.or_eq_true, beq_iff_eq, bne_iff_ne] at hwhole
  intro hhead
  obtain ⟨ds, hds⟩ := List.head?_eq_some_iff.mp hhead
  have hlength := hwhole.2.resolve_right fun hne => hne hhead
  rw [hds, List.length_cons, Nat.add_eq_right, List.length_eq_zero_iff] at hlength
  have hvalue := Text.digitsValue_decimal n
  rw [hds, hlength] at hvalue
  exact hn hvalue.symm

/-- Digits that begin like those of a number other than zero. -/
theorem isWhole_of_head? {n : Nat} (hn : n ≠ 0) {ds : List Char} (hds : ∀ c ∈ ds, c.isDigit = true)
    (hhead : ds.head? = (decimal n).head?) : isWhole ds = true := by
  have hne : ds ≠ [] := by
    rintro rfl
    exact absurd (List.head?_eq_none_iff.mp hhead.symm) Nat.toDigits_ne_nil
  rw [isWhole, isDigits_iff.mpr ⟨hne, hds⟩, hhead]
  simp [head?_decimal hn]

/-! ### Layouts -/

/-- A number with its sign is read from its parts. -/
theorem readNumber_parts (d : Decimal) (hwhole : isWhole whole = true)
    (hfraction : ∀ c ∈ fraction, c.isDigit = true) (hexponent : exponent? exponent = some e)
    (hmark : ∀ c ∈ exponent.head?, isExponentMark c = true) :
    readNumber (d.sign ++ (whole ++ pointed fraction ++ exponent)) =
      some ⟨d.negative, digitsValue (whole ++ fraction), e - fraction.length⟩ := by
  have hparts (negative : Bool) := readUnsigned_parts negative hwhole hfraction hexponent hmark
  obtain ⟨hne, hdigits⟩ := isDigits_iff.mp (isDigits_of_isWhole hwhole)
  rw [Decimal.sign]
  cases d.negative with
  | true => exact hparts true
  | false =>
    obtain ⟨c, cs, rfl⟩ := List.exists_cons_of_ne_nil hne
    have hminus : c ≠ '-' := by
      rintro rfl
      exact absurd (hdigits '-' List.mem_cons_self) (by decide)
    rw [← hparts false]
    unfold readNumber
    split
    · rename_i heq
      exact absurd (List.cons.inj heq).1 hminus
    · rfl

theorem readNumber_decimal (n : Nat) : readNumber (decimal n) = some ⟨false, n, 0⟩ := by
  have hfraction : ∀ c ∈ ([] : List Char), c.isDigit = true := by simp
  have hexponent : exponent? [] = some 0 := rfl
  have hparts := readNumber_parts ⟨false, n, 0⟩ (isWhole_decimal n) hfraction hexponent (by simp)
  simpa [Decimal.sign, pointed, Text.digitsValue_decimal] using hparts

variable {d : Decimal}

theorem exponent?_signed (n : Int) :
    exponent? ('e' :: (if n < 0 then '-' else '+') :: decimal n.natAbs) = some n := by
  have hdigits : isDigits (decimal n.natAbs) = true :=
    isDigits_iff.mpr ⟨Nat.toDigits_ne_nil, fun _ hc => Decimal.isDigit_of_mem_decimal hc⟩
  split_ifs with hn
  · simp only [exponent?, hdigits, ↓reduceIte, Text.digitsValue_decimal]
    rw [Option.some.injEq]
    omega
  · simp only [exponent?, hdigits, ↓reduceIte, Text.digitsValue_decimal]
    rw [Option.some.injEq]
    omega

/-- The scientific layout says the digits and the exponent themselves. -/
theorem readNumber_scientific (d : Decimal) : readNumber d.scientific = some d := by
  obtain ⟨c, ds, hds⟩ := List.exists_cons_of_ne_nil (Nat.toDigits_ne_nil (n := d.units) (b := 10))
  have hdecimal : decimal d.units = [c] ++ ds := hds
  have hdigits : ∀ x ∈ c :: ds, x.isDigit = true := by
    rw [← hds]
    exact fun _ hx => Decimal.isDigit_of_mem_decimal hx
  obtain ⟨hc, hfraction⟩ := List.forall_mem_cons.mp hdigits
  have hwhole : isWhole [c] = true := by
    rw [isWhole, isDigits_iff.mpr ⟨by simp, by simpa using hc⟩]
    rfl
  have hlayout : d.scientific = d.sign ++ ([c] ++ pointed ds ++
      'e' :: (if d.leading < 0 then '-' else '+') :: decimal d.leading.natAbs) := by
    have hpointed : Decimal.pointed ([c] ++ ds) = [c] ++ pointed ds := by
      cases ds <;> rfl
    rw [Decimal.scientific, hdecimal, hpointed, List.append_assoc]
  have hexponent : d.leading - ds.length = d.exponent := by
    rw [Decimal.leading, hdecimal]
    simp
  rw [hlayout, readNumber_parts d hwhole hfraction (exponent?_signed d.leading)
    (by simp [isExponentMark]), ← hdecimal, Text.digitsValue_decimal, hexponent]

theorem magnitude_eq_of_shift {units units' : Nat} {exponent exponent' : Int} {n : Nat}
    (hunits : units' = units * 10 ^ n) (hexponent : exponent = exponent' + n) (negative : Bool) :
    (⟨negative, units', exponent'⟩ : Decimal).magnitude =
      (⟨negative, units, exponent⟩ : Decimal).magnitude := by
  rw [Decimal.magnitude, Decimal.magnitude, hunits, hexponent, zpow_add₀ (by norm_num),
    zpow_natCast]
  push_cast
  ring

/-- The places of a whole number are its digits and zeros behind them. -/
theorem places_whole (hd : d.units ≠ 0 ∨ d.exponent = 0) (hexponent : 0 ≤ d.exponent) :
    d.unsignedPositional = decimal d.units ++ Decimal.zeros d.exponent.toNat ∧
      isWhole d.unsignedPositional = true ∧
      digitsValue d.unsignedPositional = d.units * 10 ^ d.exponent.toNat := by
  have hlayout : d.unsignedPositional = decimal d.units ++ Decimal.zeros d.exponent.toNat := by
    simp only [Decimal.unsignedPositional, hexponent, ↓reduceIte]
  have hdigits : ∀ c ∈ decimal d.units ++ Decimal.zeros d.exponent.toNat, c.isDigit = true :=
    List.forall_mem_append.mpr ⟨fun _ hc => Decimal.isDigit_of_mem_decimal hc,
      fun _ hc => Decimal.isDigit_of_mem_zeros hc⟩
  rw [hlayout]
  refine ⟨rfl, ?_, ?_⟩
  · by_cases hunits : d.units = 0
    · rw [hd.resolve_left fun hne => hne hunits]
      simpa [Decimal.zeros] using isWhole_decimal d.units
    · apply isWhole_of_head? hunits hdigits
      have hne : decimal d.units ≠ [] := Nat.toDigits_ne_nil
      exact List.head?_append_of_ne_nil _ hne
  · rw [Decimal.zeros, digitsValue_append, digitsValue_zeros, Text.digitsValue_decimal,
      List.length_replicate]
    ring

/-- A whole number with a zero behind the point. -/
theorem readNumber_whole (hd : d.units ≠ 0 ∨ d.exponent = 0) (hexponent : 0 ≤ d.exponent) :
    readNumber (d.positional ++ ['.', '0']) =
      some ⟨d.negative, d.units * 10 ^ (d.exponent.toNat + 1), -1⟩ := by
  obtain ⟨-, hwhole, hplaces⟩ := places_whole hd hexponent
  have hlayout : d.positional ++ ['.', '0'] =
      d.sign ++ (d.unsignedPositional ++ pointed ['0'] ++ []) := by
    simp [Decimal.positional, pointed]
  have hvalue : digitsValue (d.unsignedPositional ++ ['0']) =
      d.units * 10 ^ (d.exponent.toNat + 1) := by
    have hzero : digitsValue ['0'] = 0 := by decide
    rw [digitsValue_append, hplaces, hzero, pow_succ]
    simp
    ring
  rw [hlayout, readNumber_parts d hwhole (by simp) rfl (by simp), hvalue]
  rfl

/-- A number with a fraction, all places written. -/
theorem readNumber_fraction (hunits : d.units ≠ 0) (hexponent : d.exponent < 0) :
    readNumber d.positional = some d := by
  have hdigits : ∀ c ∈ decimal d.units, c.isDigit = true :=
    fun _ hc => Decimal.isDigit_of_mem_decimal hc
  rw [Decimal.positional, Decimal.unsignedPositional]
  simp only [show ¬ 0 ≤ d.exponent by omega, ↓reduceIte]
  split_ifs with hplaces
  · -- the point stands among the digits
    generalize hn : (decimal d.units).length - (-d.exponent).toNat = n
    have hwhole : isWhole ((decimal d.units).take n) = true := by
      apply isWhole_of_head? hunits fun c hc => hdigits c (List.mem_of_mem_take hc)
      rw [List.head?_take, if_neg (by omega)]
    have hlength : ((decimal d.units).drop n).length = (-d.exponent).toNat := by
      rw [List.length_drop]
      omega
    have hne : (decimal d.units).drop n ≠ [] := by
      rw [← List.length_pos_iff]
      omega
    have hlayout : (decimal d.units).take n ++ '.' :: (decimal d.units).drop n =
        (decimal d.units).take n ++ pointed ((decimal d.units).drop n) ++ [] := by
      rw [pointed_of_ne_nil hne, List.append_nil]
    rw [hlayout, readNumber_parts d hwhole (fun c hc => hdigits c (List.mem_of_mem_drop hc)) rfl
      (by simp), List.take_append_drop, Text.digitsValue_decimal, hlength,
      show (0 : Int) - (-d.exponent).toNat = d.exponent by omega]
  · -- there are zeros between the point and the digits
    generalize hn : (-d.exponent).toNat - (decimal d.units).length = n
    have hfraction : ∀ c ∈ Decimal.zeros n ++ decimal d.units, c.isDigit = true :=
      List.forall_mem_append.mpr ⟨fun _ hc => Decimal.isDigit_of_mem_zeros hc, hdigits⟩
    have hne : Decimal.zeros n ++ decimal d.units ≠ [] :=
      List.append_ne_nil_of_right_ne_nil _ Nat.toDigits_ne_nil
    have hlength : (Decimal.zeros n ++ decimal d.units).length = (-d.exponent).toNat := by
      rw [List.length_append, Decimal.zeros, List.length_replicate]
      omega
    have hlayout : '0' :: '.' :: (Decimal.zeros n ++ decimal d.units) =
        ['0'] ++ pointed (Decimal.zeros n ++ decimal d.units) ++ [] := by
      rw [pointed_of_ne_nil hne, List.append_nil]
      rfl
    have hvalue : digitsValue (['0'] ++ (Decimal.zeros n ++ decimal d.units)) = d.units := by
      rw [Decimal.zeros, digitsValue_append, digitsValue_append, digitsValue_zeros,
        Text.digitsValue_decimal]
      simp [digitsValue]
    rw [hlayout, readNumber_parts d (by decide) hfraction rfl (by simp), hvalue, hlength,
      show (0 : Int) - (-d.exponent).toNat = d.exponent by omega]

/-- All places of a number are read as a number of the same sign and size. -/
theorem readNumber_positional (hd : d.units ≠ 0 ∨ d.exponent = 0) :
    ∃ d', readNumber d.positional = some d' ∧ d'.negative = d.negative ∧
      d'.magnitude = d.magnitude := by
  by_cases hexponent : 0 ≤ d.exponent
  · obtain ⟨-, hwhole, hplaces⟩ := places_whole hd hexponent
    have hlayout : d.positional = d.sign ++ (d.unsignedPositional ++ pointed [] ++ []) := by
      simp [Decimal.positional, pointed]
    refine ⟨⟨d.negative, d.units * 10 ^ d.exponent.toNat, 0⟩, ?_, rfl,
      magnitude_eq_of_shift rfl ?_ d.negative⟩
    · rw [hlayout, readNumber_parts d hwhole (by simp) rfl (by simp), List.append_nil, hplaces]
      rfl
    · omega
  · have hunits := hd.resolve_right (by omega)
    exact ⟨d, readNumber_fraction hunits (by omega), rfl, rfl⟩

/-- What a number is laid out as is read as a number of the same sign and size. -/
theorem readNumber_jsonLayout (hd : d.units ≠ 0 ∨ d.exponent = 0) :
    ∃ d', readNumber (Binary64.jsonLayout d) = some d' ∧ d'.negative = d.negative ∧
      d'.magnitude = d.magnitude := by
  unfold Binary64.jsonLayout
  split_ifs with hscientific hwhole
  · exact ⟨d, readNumber_scientific d, rfl, rfl⟩
  · refine ⟨_, readNumber_whole hd hwhole, rfl, magnitude_eq_of_shift rfl ?_ d.negative⟩
    push_cast
    omega
  · have hunits := hd.resolve_right (by omega)
    exact ⟨d, readNumber_fraction hunits (by omega), rfl, rfl⟩

end Json

end CardTelemetry
