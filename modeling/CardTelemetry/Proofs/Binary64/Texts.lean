import CardTelemetry.Metric.Exposition
import CardTelemetry.Metric.Record
import CardTelemetry.Proofs.Binary64.Ties
import CardTelemetry.Proofs.Decimal.Digits
import CardTelemetry.Proofs.Json.Number

/-!
# Both texts of a gauge

A gauge stands in a line with all its places, and in JSON with an exponent where its first digit is
far from the point. Both texts are decimals that are rounded to the gauge and to no other double.
They are the same number unless the gauge is a tie between two decimals, of which the line has the
upper one and JSON the even one. How many digits there are is not said.
-/

namespace CardTelemetry

namespace Json

def hasExponent (cs : List Char) : Bool := cs.any isExponentMark

theorem hasExponent_iff {cs : List Char} (h : ∀ c ∈ cs, Decimal.IsMark c ∨ c = 'e' ∨ c = '+') :
    hasExponent cs = true ↔ 'e' ∈ cs := by
  rw [hasExponent, List.any_eq_true]
  constructor
  · rintro ⟨c, hc, hmark⟩
    rcases h c hc with (hdigit | rfl | rfl) | rfl | rfl
    · rw [← Bool.not_eq_false', (not_mark_of_isDigit hdigit).1] at hmark
      cases hmark
    · cases hmark
    · cases hmark
    · exact hc
    · cases hmark
  · intro he
    exact ⟨'e', he, rfl⟩

end Json

namespace Binary64

open Json (hasExponent readNumber)

variable {x y : Binary64} {tie : Decimal.Tie}

/-! ### Sizes -/

theorem magnitude_shortest_eq_zero_iff : (x.shortest tie).magnitude = 0 ↔ x.value = 0 := by
  have hpower : (10 : ℚ) ^ (x.shortest tie).exponent ≠ 0 := by positivity
  rw [value_eq_zero_iff, ← units_shortest_eq_zero_iff x tie, Decimal.magnitude,
    mul_eq_zero_iff_right hpower, Nat.cast_eq_zero]

/-- The sign of a double does not count for the size of its decimal. -/
theorem magnitude_shortest_congr (h : x.place = y.place) :
    (x.shortest tie).magnitude = (y.shortest tie).magnitude := by
  have hsignificand : x.significand = y.significand := by
    rw [significand_eq, significand_eq, h]
  have hquarter : x.quarter = y.quarter := by
    rw [quarter, quarter, scale_eq, scale_eq, h]
  have hbinade : x.atBinade = y.atBinade := by
    rw [atBinade, atBinade, exponentField_eq, fractionField_eq, exponentField_eq, fractionField_eq,
      h]
  simp only [shortest, interval, grain, unit, hsignificand, hquarter, hbinade]
  split_ifs <;> rfl

/-- A power of ten that is itself a shortest decimal divides the doubles as it divides their
decimals. -/
theorem magnitude_shortest_lt_iff {n : ℤ} (hy : y.shortest tie = ⟨false, 1, n⟩)
    (hle : (10 : ℚ) ^ n ≤ |y.value|) :
    (x.shortest tie).magnitude < (10 : ℚ) ^ n ↔ |x.value| < (10 : ℚ) ^ n := by
  have hpower : (10 : ℚ) ^ n = (y.shortest tie).magnitude := by
    simp [hy, Decimal.magnitude]
  rw [hpower] at hle ⊢
  rw [abs_value] at hle ⊢
  by_cases hplace : x.place < y.place
  · refine iff_of_true (magnitude_shortest_lt hplace) ?_
    have hbelow : magnitudeAt x.place ≤ magnitudeAt (y.place - 1) :=
      magnitudeAt_strictMono.monotone (by omega)
    have hnext : magnitudeAt (y.place - 1) < magnitudeAt y.place :=
      magnitudeAt_strictMono (by omega)
    have hlow := (around_shortest y tie).low
    linarith
  · have hplace := Nat.not_lt.mp hplace
    refine iff_of_false (not_lt.mpr ?_) (not_lt.mpr ?_)
    · obtain hlt | heq := Nat.lt_or_eq_of_le hplace
      · exact (magnitude_shortest_lt hlt).le
      · exact (magnitude_shortest_congr heq).le
    · exact hle.trans (magnitudeAt_strictMono.monotone hplace)

/-! ### First digits -/

/-- The first digit stands behind the fifth place after the point or before the sixteenth place
ahead of it. -/
def Remote (a : ℚ) : Prop := a ≠ 0 ∧ (Int.log 10 a < -5 ∨ 15 < Int.log 10 a)

theorem remote_iff {a : ℚ} (ha : 0 ≤ a) :
    Remote a ↔ a ≠ 0 ∧ (a < (10 : ℚ) ^ (-5 : ℤ) ∨ ¬ a < (10 : ℚ) ^ (16 : ℤ)) := by
  unfold Remote
  refine and_congr_right fun hzero => ?_
  have hpos : 0 < a := lt_of_le_of_ne ha hzero.symm
  have hlog (n : ℤ) : a < (10 : ℚ) ^ n ↔ Int.log 10 a < n :=
    Int.lt_zpow_iff_log_lt (by decide) hpos
  rw [hlog, hlog]
  omega

/-- Whether the first digit is far from the point is the same for a double and its decimal. -/
theorem remote_shortest : Remote (x.shortest .even).magnitude ↔ Remote |x.value| := by
  have hlow : (x.shortest .even).magnitude < (10 : ℚ) ^ (-5 : ℤ) ↔
      |x.value| < (10 : ℚ) ^ (-5 : ℤ) := by
    apply magnitude_shortest_lt_iff (y := ⟨0x3EE4F8B588E368F1⟩)
    · decide +kernel
    · have hplace : significandAt 0x3EE4F8B588E368F1 = 5902958103587057 ∧
          scaleAt 0x3EE4F8B588E368F1 = -69 := by
        decide
      rw [abs_value]
      show _ ≤ magnitudeAt 0x3EE4F8B588E368F1
      rw [magnitudeAt, hplace.1, hplace.2]
      norm_num
  have hhigh : (x.shortest .even).magnitude < (10 : ℚ) ^ (16 : ℤ) ↔
      |x.value| < (10 : ℚ) ^ (16 : ℤ) := by
    apply magnitude_shortest_lt_iff (y := ⟨0x4341C37937E08000⟩)
    · decide +kernel
    · have hplace : significandAt 0x4341C37937E08000 = 5000000000000000 ∧
          scaleAt 0x4341C37937E08000 = 1 := by
        decide
      rw [abs_value]
      show _ ≤ magnitudeAt 0x4341C37937E08000
      rw [magnitudeAt, hplace.1, hplace.2]
      norm_num
  rw [remote_iff (Decimal.magnitude_nonneg _), remote_iff (abs_nonneg _), hlow, hhigh, abs_ne_zero]
  exact and_congr_left fun _ => not_congr magnitude_shortest_eq_zero_iff

theorem isMark_of_mem_json (hx : x.isFinite = true) {c : Char} (h : c ∈ x.json) :
    Decimal.IsMark c ∨ c = 'e' ∨ c = '+' := by
  rw [json, if_pos hx] at h
  exact Decimal.isMark_of_mem_jsonLayout h

/-- There is an exponent where the first digit is far from the point, and nowhere else. -/
theorem hasExponent_json (hx : x.isFinite = true) :
    hasExponent x.json = true ↔ Remote (x.shortest .even).magnitude := by
  rw [Json.hasExponent_iff fun _ hc => isMark_of_mem_json hx hc, json, if_pos hx,
    Decimal.mem_jsonLayout_iff, Remote]
  by_cases hunits : (x.shortest .even).units = 0
  · have hexponent := (x.units_shortest .even).resolve_left fun hne => hne hunits
    have hleading : (x.shortest .even).leading = 0 := by
      rw [Decimal.leading, hunits, hexponent]
      rfl
    have hzero : (x.shortest .even).magnitude = 0 := by
      rw [Decimal.magnitude, hunits]
      simp
    refine iff_of_false ?_ fun h => h.1 hzero
    omega
  · have hmagnitude : (x.shortest .even).magnitude ≠ 0 := by
      rwa [Ne, magnitude_shortest_eq_zero_iff, value_eq_zero_iff,
        ← units_shortest_eq_zero_iff x .even]
    rw [Decimal.log_magnitude hunits]
    exact (and_iff_right hmagnitude).symm

theorem hasExponent_expose (hx : x.isFinite = true) : hasExponent x.expose = false := by
  rw [expose, if_pos hx, ← Bool.not_eq_true, Json.hasExponent_iff]
  · exact Decimal.not_mem_positional
  · exact fun _ hc => .inl (Decimal.isMark_of_mem_positional hc)

/-! ### What the texts say -/

/-- The text is read as a decimal of the double's sign that is rounded to it and to no other. -/
structure Says (cs : List Char) (x : Binary64) (d : Decimal) : Prop where
  read : readNumber cs = some d
  sign : d.negative = x.negative
  faithful : ∀ y, d.RoundsTo y ↔ y = x

theorem says_of_read {cs : List Char} {d : Decimal} (hx : x.isFinite = true)
    (hread : readNumber cs = some d) (hnegative : d.negative = (x.shortest tie).negative)
    (hmagnitude : d.magnitude = (x.shortest tie).magnitude) : Says cs x d := by
  refine ⟨hread, hnegative.trans (negative_shortest x tie), fun y => ?_⟩
  rw [Decimal.roundsTo_congr hnegative hmagnitude, roundsTo_shortest_iff hx]

theorem says_expose (hx : x.isFinite = true) :
    ∃ d, Says x.expose x d ∧ d.magnitude = (x.shortest .up).magnitude := by
  obtain ⟨d, hread, hnegative, hmagnitude⟩ := Json.readNumber_positional (x.units_shortest .up)
  have hlayout : x.expose = (x.shortest .up).positional := if_pos hx
  rw [← hlayout] at hread
  exact ⟨d, says_of_read hx hread hnegative hmagnitude, hmagnitude⟩

theorem says_json (hx : x.isFinite = true) :
    ∃ d, Says x.json x d ∧ d.magnitude = (x.shortest .even).magnitude := by
  obtain ⟨d, hread, hnegative, hmagnitude⟩ := Json.readNumber_jsonLayout (x.units_shortest .even)
  have hlayout : x.json = jsonLayout (x.shortest .even) := if_pos hx
  rw [← hlayout] at hread
  exact ⟨d, says_of_read hx hread hnegative hmagnitude, hmagnitude⟩

theorem not_zero_suffix_expose (hx : x.isFinite = true) : ¬ ['.', '0'] <:+ x.expose := by
  rw [expose, if_pos hx]
  exact Decimal.not_zero_suffix_positional (x.units_mod_ten_shortest .up)

end Binary64

namespace Sample

open Binary64 (Remote Says Tied)
open Json (hasExponent readNumber)

/-- The JSON text of a sample, up to its gauge. -/
def jsonHead (s : Sample) : List Char :=
  '{' :: (Json.quote "name" ++ ':' :: Json.quote s.name ++ ',' :: Json.quote "labels" ++ ':' ::
    (Json.object (s.labelObject.map fun label => (label.1, .text label.2))).write ++
      ',' :: Json.quote "value" ++ [':'])

theorem write_json (s : Sample) : s.json.write = s.jsonHead ++ s.value.json ++ ['}'] := by
  simp [json, jsonHead, Json.write, Json.writeMembers]

/-- **Both texts of a sample say its gauge.** They are different numbers exactly where the gauge is
a tie, which the line breaks upwards and JSON to the even digit. -/
theorem texts_say_gauge {s : Sample} (h : s.value.isFinite = true) :
    Exposition.line s =
        s.name.toList ++ Exposition.labelsText s.labels ++ ' ' :: s.value.expose ∧
      s.json.write = s.jsonHead ++ s.value.json ++ ['}'] ∧
      (∃ shown said, Says s.value.expose s.value shown ∧ Says s.value.json s.value said ∧
        (shown.value ≠ said.value ↔ ∃ n e, Tied s.value n e) ∧
        (∀ n e, Tied s.value n e →
          said.magnitude = n * (10 : ℚ) ^ e ∧ shown.magnitude = (n + 1) * (10 : ℚ) ^ e) ∧
        (hasExponent s.value.json = true ↔ Remote said.magnitude)) ∧
      (hasExponent s.value.json = true ↔ Remote |s.value.value|) ∧
      hasExponent s.value.expose = false ∧ ¬ ['.', '0'] <:+ s.value.expose := by
  obtain ⟨shown, hshown, hup⟩ := Binary64.says_expose h
  obtain ⟨said, hsaid, heven⟩ := Binary64.says_json h
  have hexponent := Binary64.hasExponent_json h
  refine ⟨rfl, s.write_json, ⟨shown, said, hshown, hsaid, ?_, ?_, ?_⟩,
    hexponent.trans Binary64.remote_shortest, Binary64.hasExponent_expose h,
    Binary64.not_zero_suffix_expose h⟩
  · rw [Ne, Decimal.value_inj (hshown.sign.trans hsaid.sign.symm), hup, heven]
    exact Binary64.magnitude_shortest_ne_iff h
  · intro n e htied
    rw [hup, heven]
    exact htied.magnitudes
  · rw [heven]
    exact hexponent

/-- A gauge halfway between two decimals of seventeen digits. -/
def tied : Sample := ⟨⟨"node_drm_m", "h", []⟩, [], ⟨0xC31FAB4D43C11B59⟩, rfl⟩

theorem readNumber_tied :
    readNumber tied.value.expose = some ⟨true, 22285181538976863, -1⟩ ∧
      readNumber tied.value.json = some ⟨true, 22285181538976862, -1⟩ := by
  decide +kernel

/-- A gauge halfway between 0 and 1, neither of which is rounded to it. -/
def plainHalf : Sample := ⟨⟨"node_drm_m", "h", []⟩, [], ⟨0x3FE0000000000000⟩, rfl⟩

/-- A tie is told from a gauge that is only halfway between two whole numbers. -/
theorem texts_say_gauge_tied :
    (tied.value.isFinite = true ∧ ∃ shown said, Says tied.value.expose tied.value shown ∧
      Says tied.value.json tied.value said ∧
      ∃ n e, Tied tied.value n e ∧ said.magnitude = n * (10 : ℚ) ^ e ∧
        shown.magnitude = (n + 1) * (10 : ℚ) ^ e) ∧
      plainHalf.value.isFinite = true ∧ 2 * |plainHalf.value.value| = 1 ∧
      ∀ n e, ¬ Tied plainHalf.value n e := by
  have htied : tied.value.isFinite = true := by decide
  have hhalf : plainHalf.value.isFinite = true := by decide
  refine ⟨⟨htied, ?_⟩, hhalf, ?_, ?_⟩
  · obtain ⟨-, -, ⟨shown, said, hshown, hsaid, hdiffers, hties, -⟩, -⟩ := texts_say_gauge htied
    have hne : shown.value ≠ said.value := by
      rw [← Option.some.inj (readNumber_tied.1.symm.trans hshown.read),
        ← Option.some.inj (readNumber_tied.2.symm.trans hsaid.read)]
      norm_num [Decimal.value, Decimal.magnitude, Binary64.signum]
    obtain ⟨n, e, hn⟩ := hdiffers.mp hne
    exact ⟨shown, said, hshown, hsaid, n, e, hn, hties n e hn⟩
  · have hfields : plainHalf.value.significand = 2 ^ 52 ∧ plainHalf.value.scale = -53 ∧
        plainHalf.value.negative = false := by decide
    rw [Binary64.value, hfields.1, hfields.2.1, hfields.2.2]
    norm_num
  · intro n e hn
    obtain ⟨-, -, ⟨shown, said, hshown, hsaid, hdiffers, -⟩, -⟩ := texts_say_gauge hhalf
    have hread : readNumber plainHalf.value.expose = readNumber plainHalf.value.json := by
      decide +kernel
    rw [hshown.read, hsaid.read] at hread
    exact hdiffers.mpr ⟨n, e, hn⟩ (congrArg Decimal.value (Option.some.inj hread))

/-- The two texts of a gauge that is a tie are not the same number. -/
theorem texts_apart_tied :
    tied.value.isFinite = true ∧ tied.text = "node_drm_m -2228518153897686.3" ∧
      tied.json.render =
        "\x7b\"name\":\"node_drm_m\",\"labels\":\x7b\x7d,\"value\":-2228518153897686.2\x7d" ∧
      ∀ shown said, readNumber tied.value.expose = some shown →
        readNumber tied.value.json = some said → shown.value ≠ said.value := by
  refine ⟨by decide, by decide +kernel, by decide +kernel, ?_⟩
  intro shown said hshown hsaid
  rw [← Option.some.inj (readNumber_tied.1.symm.trans hshown),
    ← Option.some.inj (readNumber_tied.2.symm.trans hsaid)]
  norm_num [Decimal.value, Decimal.magnitude, Binary64.signum]

end Sample

end CardTelemetry
