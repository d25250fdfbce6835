import CardTelemetry.Text.Numeral

/-!
# Decimal numbers and how they are laid out

A decimal number is a sign, a natural number of units and the power of ten of the
unit. The positional layout writes every place; the scientific one writes the first
digit, a point, the others and the exponent of the first digit with its sign.
-/

namespace CardTelemetry

/-- `units * 10 ^ exponent`, with a sign that zero has too. -/
structure Decimal where
  negative : Bool
  units : Nat
  exponent : Int
deriving DecidableEq

namespace Decimal

open Text (decimal)

def zeros (n : Nat) : List Char := List.replicate n '0'

def sign (d : Decimal) : List Char := if d.negative then ['-'] else []

/-- All places of the number, and a point only before a fraction. -/
def unsignedPositional (d : Decimal) : List Char :=
  let digits := decimal d.units
  if 0 ≤ d.exponent then digits ++ zeros d.exponent.toNat
  else
    let places := (-d.exponent).toNat
    if places < digits.length then
      digits.take (digits.length - places) ++ '.' :: digits.drop (digits.length - places)
    else '0' :: '.' :: (zeros (places - digits.length) ++ digits)

def positional (d : Decimal) : List Char := d.sign ++ d.unsignedPositional

def leading (d : Decimal) : Int := d.exponent + ((decimal d.units).length - 1 : Nat)

/-- Digits with a point after the first if others follow. -/
def pointed : List Char → List Char
  | [] => []
  | [c] => [c]
  | c :: rest => c :: '.' :: rest

def scientific (d : Decimal) : List Char :=
  let mark := if d.leading < 0 then '-' else '+'
  d.sign ++ pointed (decimal d.units) ++ 'e' :: mark :: decimal d.leading.natAbs

end Decimal

end CardTelemetry
