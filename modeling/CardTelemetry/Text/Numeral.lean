/-!
# Decimal numerals

A numeral is an optional plus sign and one or more ASCII digits, read below a
given limit. The leftmost fault is the one reported: a digit that takes the value
to the limit is found before a stray character to the right of it.
-/

namespace CardTelemetry.Text

inductive NumeralFault where
  | empty
  | invalidDigit
  | tooLarge
deriving DecidableEq

def digit? (c : Char) : Option Nat :=
  if '0' ≤ c ∧ c ≤ '9' then some (c.toNat - '0'.toNat) else none

/-- Reads digits onto the value of those already read. -/
def readDigits (limit : Nat) : Nat → List Char → Except NumeralFault Nat
  | value, [] => .ok value
  | value, c :: rest =>
    match digit? c with
    | none => .error .invalidDigit
    | some d =>
      if 10 * value + d < limit then readDigits limit (10 * value + d) rest
      else .error .tooLarge

/-- Reads a numeral whose value is below the limit. -/
def readNumeral (limit : Nat) : List Char → Except NumeralFault Nat
  | [] => .error .empty
  | ['+'] => .error .invalidDigit
  | '+' :: c :: rest => readDigits limit 0 (c :: rest)
  | s => readDigits limit 0 s

def readWord (s : List Char) : Except NumeralFault UInt64 :=
  (readNumeral UInt64.size s).map UInt64.ofNat

/-- The decimal digits of a natural number, without leading zeros. -/
def decimal (n : Nat) : List Char := Nat.toDigits 10 n

/-- The decimal digits of an integer, behind a minus sign if it is negative. -/
def signed (n : Int) : String := if n < 0 then "-" ++ n.natAbs.repr else n.natAbs.repr

end CardTelemetry.Text
