import CardTelemetry.Json.Basic
import CardTelemetry.Proofs.Decimal.Layout
import Mathlib.Data.List.Basic

/-!
# A JSON text is one line

Every control character in a text is escaped, and numbers are written without any, so that a
value's text never holds one, whatever texts the value is made of.
-/

namespace CardTelemetry

namespace Text

/-- No character is a control character below the blank. -/
def Plain (cs : List Char) : Prop := ∀ c ∈ cs, 0x20 ≤ c.toNat

theorem plain_nil : Plain [] := by simp [Plain]

theorem plain_cons {c : Char} {cs : List Char} : Plain (c :: cs) ↔ 0x20 ≤ c.toNat ∧ Plain cs := by
  simp [Plain]

theorem plain_append {as bs : List Char} : Plain (as ++ bs) ↔ Plain as ∧ Plain bs := by
  simp [Plain, or_imp, forall_and]

theorem plain_flatMap {f : Char → List Char} (h : ∀ c, Plain (f c)) (cs : List Char) :
    Plain (cs.flatMap f) := by
  intro c hc
  obtain ⟨d, -, hd⟩ := List.mem_flatMap.mp hc
  exact h d c hd

theorem newline_not_mem_of_plain {cs : List Char} (h : Plain cs) : '\n' ∉ cs := by
  intro hmem
  have hle := h _ hmem
  revert hle
  decide

theorem plain_decimal (n : Nat) : Plain (decimal n) := by
  intro c hc
  exact (Decimal.IsMark.lt_toNat (.inl (Decimal.isDigit_of_mem_decimal hc))).le

end Text

open Text (Plain plain_nil plain_cons plain_append plain_decimal)

theorem Binary64.plain_json (x : Binary64) : Plain x.json := by
  unfold json
  split
  · intro c hc
    obtain hmark | rfl | rfl := Decimal.isMark_of_mem_jsonLayout hc
    · exact hmark.lt_toNat.le
    · decide
    · decide
  · simp [Plain]

namespace Json

theorem plain_escape (c : Char) : Plain (escape c) := by
  have hhex : ∀ n < 32, 0x20 ≤ (hexDigit (n / 16)).toNat ∧ 0x20 ≤ (hexDigit (n % 16)).toNat := by
    decide
  unfold escape
  iterate 7
    split
    · simp [Plain]
  split
  · rename_i hlt
    obtain ⟨hhigh, hlow⟩ := hhex c.toNat hlt
    simp [Plain, hhigh, hlow]
  · rename_i hge
    simp only [plain_cons]
    exact ⟨by omega, plain_nil⟩

theorem plain_quote (s : String) : Plain (quote s) := by
  rw [quote, plain_cons, plain_append]
  exact ⟨by decide, Text.plain_flatMap plain_escape _, by simp [Plain]⟩

mutual

/-- No value's text has a control character. -/
theorem plain_write : ∀ j : Json, Plain j.write
  | .null => by simp [write, Plain]
  | .natural n => by
    rw [write]
    exact plain_decimal n
  | .real x => by
    rw [write]
    exact x.plain_json
  | .text s => by
    rw [write]
    exact plain_quote s
  | .array items => by
    rw [write, plain_cons, plain_append]
    exact ⟨by decide, plain_writeItems items, by simp [Plain]⟩
  | .object members => by
    rw [write, plain_cons, plain_append]
    exact ⟨by decide, plain_writeMembers members, by simp [Plain]⟩

theorem plain_writeItems : ∀ items : List Json, Plain (writeItems items)
  | [] => plain_nil
  | [item] => by
    rw [writeItems]
    exact plain_write item
  | item :: next :: rest => by
    rw [writeItems, plain_append, plain_cons]
    · exact ⟨plain_write item, by decide, plain_writeItems (next :: rest)⟩
    · simp

theorem plain_writeMembers : ∀ members : List (String × Json), Plain (writeMembers members)
  | [] => plain_nil
  | [(key, item)] => by
    rw [writeMembers, plain_append, plain_cons]
    exact ⟨plain_quote key, by decide, plain_write item⟩
  | (key, item) :: next :: rest => by
    rw [writeMembers, plain_append, plain_cons, plain_append, plain_cons]
    · exact ⟨plain_quote key, by decide, plain_write item, by decide,
        plain_writeMembers (next :: rest)⟩
    · simp

end

/-- The text of a value is one line. -/
theorem newline_not_mem_render (j : Json) : '\n' ∉ j.render.toList := by
  rw [render, String.toList_ofList]
  exact Text.newline_not_mem_of_plain (plain_write j)

/-! ### Parts of a line -/

theorem ofList_writeItems : ∀ items : List Json,
    String.ofList (writeItems items) = ",".intercalate (items.map render)
  | [] => rfl
  | [item] => by rw [writeItems, List.map_singleton, String.intercalate_singleton, render]
  | item :: next :: rest => by
    rw [writeItems, String.ofList_append, String.ofList_cons, ofList_writeItems (next :: rest)]
    · simp only [List.map_cons, String.intercalate_cons_cons, render, String.append_assoc]
      rfl
    · simp

/-- A list is its items with commas between them, in brackets. -/
theorem render_array (items : List Json) :
    (array items).render = "[" ++ ",".intercalate (items.map render) ++ "]" := by
  rw [render, write, String.ofList_cons, String.ofList_append, ofList_writeItems,
    String.append_assoc]
  rfl

/-- A member of an object: its name in quotes, a colon and its value. -/
def renderMember (member : String × Json) : String :=
  String.ofList (quote member.1) ++ ":" ++ member.2.render

theorem ofList_writeMembers : ∀ members : List (String × Json),
    String.ofList (writeMembers members) = ",".intercalate (members.map renderMember)
  | [] => rfl
  | [(key, item)] => by
    rw [writeMembers, List.map_singleton, String.intercalate_singleton, renderMember, render,
      String.ofList_append, String.ofList_cons, String.append_assoc]
    rfl
  | (key, item) :: next :: rest => by
    rw [writeMembers, String.ofList_append, String.ofList_cons, String.ofList_append,
      String.ofList_cons, ofList_writeMembers (next :: rest)]
    · simp only [List.map_cons, String.intercalate_cons_cons, renderMember, render,
        String.append_assoc]
      rfl
    · simp

/-- An object is its members with commas between them, in braces. -/
theorem render_object (members : List (String × Json)) :
    (object members).render = "\x7b" ++ ",".intercalate (members.map renderMember) ++ "\x7d" := by
  rw [render, write, String.ofList_cons, String.ofList_append, ofList_writeMembers,
    String.append_assoc]
  rfl

end Json

end CardTelemetry
