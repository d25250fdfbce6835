import CardTelemetry.Binary64.Basic
import CardTelemetry.Decimal.Layout
import CardTelemetry.Decimal.Shortest

/-!
# Doubles in decimal

A finite double is written with the fewest digits that read back as it. Exposition
text writes all places and rounds a halfway case up; JSON rounds it to the even
digit, keeps a `.0` on whole numbers, and turns to scientific notation where the
first digit stands below 10^-5 or above 10^15.
-/

namespace CardTelemetry.Binary64

open CardTelemetry (Decimal)

/-- A quarter of the spacing of the doubles around `x` is two to this power. -/
def quarter (x : Binary64) : Int := x.scale - 2

/-- The quarter spacing as a multiple of the unit `10 ^ unit x`. -/
def grain (x : Binary64) : Nat :=
  if 0 ≤ x.quarter then Nat.pow 2 x.quarter.toNat else Nat.pow 5 (-x.quarter).toNat

/-- The power of ten of which the double and the bounds of its interval are multiples. -/
def unit (x : Binary64) : Int := min x.quarter 0

/-- What rounds to the double: half the spacing on either side, the ends included
when the significand is even. -/
def interval (x : Binary64) : Decimal.Interval where
  low := (4 * x.significand - if x.atBinade then 1 else 2) * x.grain
  value := 4 * x.significand * x.grain
  high := (4 * x.significand + 2) * x.grain
  closed := x.significand % 2 == 0

/-- The shortest decimal that reads back as a finite double. -/
def shortest (tie : Decimal.Tie) (x : Binary64) : Decimal :=
  if x.significand = 0 then ⟨x.negative, 0, 0⟩
  else ⟨x.negative, x.interval.shortest tie, x.unit + x.interval.power⟩

def expose (x : Binary64) : List Char :=
  if x.isFinite then (x.shortest .up).positional
  else if x.isNaN then "NaN".toList
  else if x.negative then "-inf".toList
  else "inf".toList

def jsonLayout (d : Decimal) : List Char :=
  if d.leading < -5 ∨ 15 < d.leading then d.scientific
  else if 0 ≤ d.exponent then d.positional ++ ['.', '0']
  else d.positional

/-- The form of a double in JSON, where only finite numbers have one. -/
def json (x : Binary64) : List Char :=
  if x.isFinite then jsonLayout (x.shortest .even) else "null".toList

end CardTelemetry.Binary64
