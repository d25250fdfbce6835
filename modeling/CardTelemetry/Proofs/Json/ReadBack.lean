import CardTelemetry.Json.Basic
import CardTelemetry.Proofs.Binary64.Texts
import CardTelemetry.Proofs.Json.Reader

/-!
# Documents are read back

A value's text is one document, and says the value: texts are read back exactly, and a finite double
as a decimal that is rounded to it and to no other double. The doubles that are not finite are read
as null, so that they are not told apart from each other.
-/

namespace CardTelemetry

namespace Json

/-- What a number's text leaves of a double: the decimal gives the double back, and no other. -/
def Gauge (x : Binary64) : Value → Prop
  | .number d => x.isFinite = true ∧ ∀ y, d.RoundsTo y ↔ y = x
  | .null => x.isFinite = false
  | _ => False

mutual

/-- What a value is read as. -/
inductive Denotes : Json → Value → Prop where
  | null : Denotes .null .null
  | natural (n : Nat) : Denotes (.natural n) (.number ⟨false, n, 0⟩)
  | real {x : Binary64} {v : Value} (h : Gauge x v) : Denotes (.real x) v
  | text (s : String) : Denotes (.text s) (.text s)
  | array {items : List Json} {values : List Value} (h : List.Forall₂ Denotes items values) :
      Denotes (.array items) (.array values)
  | object {members : List (String × Json)} {values : List (String × Value)}
      (h : List.Forall₂ DenotesMember members values) : Denotes (.object members) (.object values)

inductive DenotesMember : String × Json → String × Value → Prop where
  | member {j : Json} {v : Value} (name : String) (h : Denotes j v) :
      DenotesMember (name, j) (name, v)

end

open Parse (deliver)
open State (run run_cons run_append_of_eq run_mark)

variable {p : Parse} {part cs : List Char} {stack : List Frame} {v : Value} {d : Decimal}

/-! ### Texts -/

theorem hexValue?_hexDigit {n : Nat} (h : n < 16) : hexValue? (hexDigit n) = some n := by
  revert h
  revert n
  decide

/-- An escaped control character is found again. -/
theorem run_unit {c : Char} (h : c.toNat < 0x20) :
    run ⟨.text part none, p⟩
        ['\\', 'u', '0', '0', hexDigit (c.toNat / 16), hexDigit (c.toNat % 16)] =
      some ⟨.text (part ++ [c]) none, p⟩ := by
  have hhigh := hexValue?_hexDigit (n := c.toNat / 16) (by omega)
  have hlow := hexValue?_hexDigit (n := c.toNat % 16) (by omega)
  have hunit : 16 * (c.toNat / 16) + c.toNat % 16 = c.toNat := Nat.div_add_mod _ _
  have hnotHigh : isHighHalf c.toNat = false := decide_eq_false (by omega)
  have hnotLow : isLowHalf c.toNat = false := decide_eq_false (by omega)
  show run ⟨.hex part none 2 0, p⟩ [hexDigit (c.toNat / 16), hexDigit (c.toNat % 16)] = _
  simp [run, State.step, hhigh, hlow, hunit, Scan.afterUnit, hnotHigh, hnotLow]

/-- No character of a text ends it. -/
theorem run_escape (c : Char) :
    run ⟨.text part none, p⟩ (escape c) = some ⟨.text (part ++ [c]) none, p⟩ := by
  unfold escape
  iterate 7
    split
    · rename_i h
      rw [h]
      rfl
  split
  · exact run_unit ‹_›
  · have hquote : c ≠ '"' := ‹_›
    have hslash : c ≠ '\\' := ‹_›
    have hplain : ¬ c.toNat < 0x20 := ‹_›
    simp [run, State.step, hquote, hslash, hplain]

theorem run_escapes :
    run ⟨.text part none, p⟩ (cs.flatMap escape) = some ⟨.text (part ++ cs) none, p⟩ := by
  induction cs generalizing part with
  | nil =>
    rw [List.append_nil]
    rfl
  | cons c rest ih =>
    rw [List.flatMap_cons, run_append_of_eq (run_escape c), ih, List.append_assoc,
      List.singleton_append]

/-- A text in quotes is one token. -/
theorem run_quote {s : String} {q : Parse} (h : p.take (.text s) = some q) (rest : List Char) :
    run ⟨.between, p⟩ (quote s ++ rest) = run ⟨.between, q⟩ rest := by
  have htext : run ⟨.between, p⟩ ('"' :: s.toList.flatMap escape) =
      some ⟨.text s.toList none, p⟩ := by
    show run ⟨.text [] none, p⟩ (s.toList.flatMap escape) = _
    rw [run_escapes, List.nil_append]
  have hquote : quote s ++ rest = ('"' :: s.toList.flatMap escape) ++ '"' :: rest := by
    simp [quote]
  have hend : State.step ⟨.text s.toList none, p⟩ '"' = some ⟨.between, q⟩ := by
    simp [State.step, h]
  rw [hquote, run_append_of_eq htext, run_cons, hend, Option.bind_some]

/-! ### Words -/

/-- The characters are read as the value, wherever a value may come and a word would end. -/
def Spells (cs : List Char) (v : Value) : Prop :=
  ∀ (p : Parse) (stack : List Frame), p.around = some stack →
    ∀ (c : Char) (rest : List Char), endsWord c = true →
      run ⟨.between, p⟩ (cs ++ c :: rest) = run ⟨.between, deliver v stack⟩ (c :: rest)

theorem run_word (h : ∀ c ∈ cs, endsWord c = false) :
    run ⟨.word part, p⟩ cs = some ⟨.word (part ++ cs), p⟩ := by
  induction cs generalizing part with
  | nil =>
    rw [List.append_nil]
    rfl
  | cons c rest ih =>
    obtain ⟨hc, hrest⟩ := List.forall_mem_cons.mp h
    rw [run_cons, State.step, hc]
    show run ⟨.word (part ++ [c]), p⟩ rest = _
    rw [ih hrest, List.append_assoc, List.singleton_append]

theorem start_word {c : Char} (h : endsWord c = false) :
    State.start p c = some ⟨.word [c], p⟩ := by
  simp only [endsWord, Bool.or_eq_false_iff, beq_eq_false_iff_ne, ne_eq,
    Option.isSome_eq_false_iff, Option.isNone_iff_eq_none] at h
  obtain ⟨⟨hblank, hquote⟩, hmark⟩ := h
  rw [State.start, hblank, if_neg Bool.false_ne_true, if_neg hquote, hmark]

theorem spells_word (hcs : cs ≠ []) (h : ∀ c ∈ cs, endsWord c = false)
    (hscalar : scalar? cs = some v) : Spells cs v := by
  intro p stack haround c rest hc
  obtain ⟨first, others, rfl⟩ := List.exists_cons_of_ne_nil hcs
  obtain ⟨hfirst, hothers⟩ := List.forall_mem_cons.mp h
  have hword : run ⟨.between, p⟩ (first :: others) = some ⟨.word (first :: others), p⟩ := by
    rw [run_cons, State.step, start_word hfirst, Option.bind_some, run_word hothers]
    rfl
  have hstep : State.step ⟨.word (first :: others), p⟩ c = State.start (deliver v stack) c := by
    simp [State.step, hc, hscalar, Parse.take_scalar v haround]
  rw [run_append_of_eq hword, run_cons, hstep]
  rfl

theorem spells_text (s : String) : Spells (quote s) (.text s) := by
  intro p stack haround c rest _
  exact run_quote (Parse.take_text s haround) (c :: rest)

theorem spells_null : Spells "null".toList .null := by
  have hread : readNumber "null".toList = none := by decide
  have hnone : ∀ c ∈ "null".toList, endsWord c = false := by
    simp [endsWord, isBlank, mark?]
  refine spells_word (by decide) hnone ?_
  rw [scalar?, hread]
  exact if_pos rfl

/-! ### Numbers -/

theorem endsWord_eq_false {c : Char} (h : Decimal.IsMark c ∨ c = 'e' ∨ c = '+') :
    endsWord c = false := by
  rcases h with (hdigit | rfl | rfl) | rfl | rfl
  · have hne {k : Char} (hk : k.isDigit = false) : c ≠ k := by
      rintro rfl
      rw [hdigit] at hk
      cases hk
    have hmark : mark? c = none := by
      unfold mark?
      split <;> first | rfl | cases hdigit
    have hblank : isBlank c = false := by
      simp [isBlank, hne (k := ' ') rfl, hne (k := '\t') rfl, hne (k := '\n') rfl,
        hne (k := '\r') rfl]
    simp [endsWord, hblank, hmark, hne (k := '"') rfl]
  all_goals decide

theorem spells_number (h : ∀ c ∈ cs, Decimal.IsMark c ∨ c = 'e' ∨ c = '+')
    (hread : readNumber cs = some d) : Spells cs (.number d) := by
  apply spells_word
  · rintro rfl
    cases hread
  · intro c hc
    exact endsWord_eq_false (h c hc)
  · rw [scalar?, hread]

theorem spells_natural (n : Nat) : Spells (Text.decimal n) (.number ⟨false, n, 0⟩) := by
  apply spells_number ?_ (readNumber_decimal n)
  intro c hc
  exact .inl (.inl (Decimal.isDigit_of_mem_decimal hc))

theorem spells_real (x : Binary64) : ∃ v, Gauge x v ∧ Spells x.json v := by
  by_cases hx : x.isFinite = true
  · obtain ⟨d, hsays, -⟩ := Binary64.says_json hx
    have hspells := spells_number (fun _ hc => Binary64.isMark_of_mem_json hx hc) hsays.read
    exact ⟨.number d, ⟨hx, hsays.faithful⟩, hspells⟩
  · have hnull : x.json = "null".toList := if_neg hx
    rw [hnull]
    exact ⟨.null, Bool.eq_false_iff.mpr hx, spells_null⟩

/-! ### Arrays and objects -/

/-- A key and its colon, where a key may come. -/
theorem run_key {before : List (String × Value)} {name : String}
    (haround : p.aroundKey = some (stack, before)) (rest : List Char) :
    run ⟨.between, p⟩ (quote name ++ ':' :: rest) =
      run ⟨.between, .value (.object before name :: stack)⟩ rest := by
  rw [run_quote (Parse.take_key name haround)]
  exact run_mark rfl rfl rfl rest

mutual

/-- A value's text is read as the value. -/
theorem exists_denotes_spells : ∀ j : Json, ∃ v, Denotes j v ∧ Spells j.write v
  | .null => ⟨.null, .null, by rw [write]; exact spells_null⟩
  | .natural n => ⟨_, .natural n, by rw [write]; exact spells_natural n⟩
  | .real x => by
    obtain ⟨v, hv, hspells⟩ := spells_real x
    rw [write]
    exact ⟨v, .real hv, hspells⟩
  | .text s => ⟨_, .text s, by rw [write]; exact spells_text s⟩
  | .array [] => by
    refine ⟨.array [], .array .nil, ?_⟩
    intro p stack haround c rest _
    rw [write, writeItems, List.nil_append, List.cons_append,
      run_mark rfl rfl (Parse.take_openArray haround)]
    exact run_mark rfl rfl rfl (c :: rest)
  | .array (item :: items) => by
    obtain ⟨values, hvalues, hread⟩ := exists_denotes_items (item :: items) (List.cons_ne_nil _ _)
    refine ⟨.array values, .array hvalues, ?_⟩
    intro p stack haround c rest _
    rw [write, List.cons_append, List.append_assoc,
      run_mark rfl rfl (Parse.take_openArray haround)]
    exact hread (p := .firstItem stack) rfl (c :: rest)
  | .object [] => by
    refine ⟨.object [], .object .nil, ?_⟩
    intro p stack haround c rest _
    rw [write, writeMembers, List.nil_append, List.cons_append,
      run_mark rfl rfl (Parse.take_openObject haround)]
    exact run_mark rfl rfl rfl (c :: rest)
  | .object (member :: members) => by
    obtain ⟨values, hvalues, hread⟩ :=
      exists_denotes_members (member :: members) (List.cons_ne_nil _ _)
    refine ⟨.object values, .object hvalues, ?_⟩
    intro p stack haround c rest _
    rw [write, List.cons_append, List.append_assoc,
      run_mark rfl rfl (Parse.take_openObject haround)]
    exact hread (p := .firstKey stack) rfl (c :: rest)

theorem exists_denotes_items : ∀ items : List Json, items ≠ [] →
    ∃ values, List.Forall₂ Denotes items values ∧
      ∀ {p : Parse} {stack : List Frame} {before : List Value},
        p.around = some (.array before :: stack) → ∀ rest,
          run ⟨.between, p⟩ (writeItems items ++ ']' :: rest) =
            run ⟨.between, deliver (.array (before ++ values)) stack⟩ rest
  | [], h => absurd rfl h
  | [item], _ => by
    obtain ⟨v, hv, hspells⟩ := exists_denotes_spells item
    refine ⟨[v], .cons hv .nil, ?_⟩
    intro p stack before haround rest
    rw [writeItems, hspells _ _ haround _ _ rfl]
    exact run_mark rfl rfl rfl rest
  | item :: next :: others, _ => by
    obtain ⟨v, hv, hspells⟩ := exists_denotes_spells item
    obtain ⟨values, hvalues, hread⟩ := exists_denotes_items (next :: others) (List.cons_ne_nil _ _)
    refine ⟨v :: values, .cons hv hvalues, ?_⟩
    intro p stack before haround rest
    have hcomma : (deliver v (.array before :: stack)).take .comma =
        some (.value (.array (before ++ [v]) :: stack)) := rfl
    rw [writeItems, List.append_assoc, List.cons_append, hspells _ _ haround _ _ rfl,
      run_mark rfl rfl hcomma, hread rfl, List.append_assoc, List.singleton_append]
    simp

theorem exists_denotes_members : ∀ members : List (String × Json), members ≠ [] →
    ∃ values, List.Forall₂ DenotesMember members values ∧
      ∀ {p : Parse} {stack : List Frame} {before : List (String × Value)},
        p.aroundKey = some (stack, before) → ∀ rest,
          run ⟨.between, p⟩ (writeMembers members ++ '}' :: rest) =
            run ⟨.between, deliver (.object (before ++ values)) stack⟩ rest
  | [], h => absurd rfl h
  | [(name, j)], _ => by
    obtain ⟨v, hv, hspells⟩ := exists_denotes_spells j
    refine ⟨[(name, v)], .cons (.member name hv) .nil, ?_⟩
    intro p stack before haround rest
    rw [writeMembers, List.append_assoc, List.cons_append, run_key haround, hspells _ _ rfl _ _ rfl]
    exact run_mark rfl rfl rfl rest
  | (name, j) :: next :: others, _ => by
    obtain ⟨v, hv, hspells⟩ := exists_denotes_spells j
    obtain ⟨values, hvalues, hread⟩ :=
      exists_denotes_members (next :: others) (List.cons_ne_nil _ _)
    refine ⟨(name, v) :: values, .cons (.member name hv) hvalues, ?_⟩
    intro p stack before haround rest
    have hcomma : (deliver v (.object before name :: stack)).take .comma =
        some (.key stack (before ++ [(name, v)])) := rfl
    rw [writeMembers, List.append_assoc, List.cons_append, List.append_assoc, List.cons_append,
      run_key haround, hspells _ _ rfl _ _ rfl, run_mark rfl rfl hcomma, hread rfl,
      List.append_assoc, List.singleton_append]
    simp

end

/-- **What is rendered is one document, and it says the value.** -/
theorem read_render (j : Json) : ∃ v, read j.render = some v ∧ Denotes j v := by
  obtain ⟨v, hv, hspells⟩ := exists_denotes_spells j
  refine ⟨v, ?_, hv⟩
  rw [read, render, String.toList_ofList, hspells (.value []) [] rfl ' ' [] rfl]
  rfl

end Json

end CardTelemetry
