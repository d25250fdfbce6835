/-!
# UTF-8

Bytes are decoded left to right. Where they stop being UTF-8, the longest run
that begins some character is one broken part; decoding goes on at the next byte.
A strict reader refuses a text with a broken part, a lossy one shows the
replacement character for each.
-/

namespace CardTelemetry.Text.Utf8

/-- A character begun: the bytes still owed, the range of the next one, and the
value of the bits read so far. -/
structure Begun where
  owed : Nat
  low : Nat
  high : Nat
  value : Nat

/-- What a first byte begins. A byte that begins nothing gives `none`, and an ASCII
byte owes nothing more. The ranges leave out overlong forms, surrogates and values
above the last code point. -/
def begin? (b : Nat) : Option Begun :=
  if b ≤ 0x7F then some ⟨0, 0, 0, b⟩
  else if 0xC2 ≤ b ∧ b ≤ 0xDF then some ⟨1, 0x80, 0xBF, b - 0xC0⟩
  else if b = 0xE0 then some ⟨2, 0xA0, 0xBF, 0⟩
  else if b = 0xED then some ⟨2, 0x80, 0x9F, 0xD⟩
  else if 0xE1 ≤ b ∧ b ≤ 0xEF then some ⟨2, 0x80, 0xBF, b - 0xE0⟩
  else if b = 0xF0 then some ⟨3, 0x90, 0xBF, 0⟩
  else if 0xF1 ≤ b ∧ b ≤ 0xF3 then some ⟨3, 0x80, 0xBF, b - 0xF0⟩
  else if b = 0xF4 then some ⟨3, 0x80, 0x8F, 4⟩
  else none

def Begun.add (g : Begun) (b : Nat) : Begun :=
  ⟨g.owed - 1, 0x80, 0xBF, 64 * g.value + (b - 0x80)⟩

/-- Decodes from between characters (`none`) or inside one; a broken part is `none`. -/
def decodeFrom : Option Begun → List UInt8 → List (Option Char)
  | none, [] => []
  | some _, [] => [none]
  | none, b :: rest =>
    match begin? b.toNat with
    | none => none :: decodeFrom none rest
    | some g =>
      if g.owed = 0 then some (Char.ofNat g.value) :: decodeFrom none rest
      else decodeFrom (some g) rest
  | some g, b :: rest =>
    if g.low ≤ b.toNat ∧ b.toNat ≤ g.high then
      if g.owed = 1 then some (Char.ofNat (g.add b.toNat).value) :: decodeFrom none rest
      else decodeFrom (some (g.add b.toNat)) rest
    else
      none ::
        match begin? b.toNat with
        | none => none :: decodeFrom none rest
        | some h =>
          if h.owed = 0 then some (Char.ofNat h.value) :: decodeFrom none rest
          else decodeFrom (some h) rest

/-- The characters and broken parts of some bytes, in order. -/
def decode (bytes : List UInt8) : List (Option Char) := decodeFrom none bytes

/-- The text that the bytes are, if all of them are UTF-8. -/
def strict? (bytes : List UInt8) : Option String :=
  if (decode bytes).all Option.isSome then some (String.ofList ((decode bytes).filterMap id))
  else none

def replacement : Char := '\uFFFD'

/-- The text of the bytes, each broken part shown as the replacement character. -/
def lossy (bytes : List UInt8) : String :=
  String.ofList ((decode bytes).map fun c => c.getD replacement)

def bytes (s : String) : List UInt8 := s.toByteArray.data.toList

end CardTelemetry.Text.Utf8
