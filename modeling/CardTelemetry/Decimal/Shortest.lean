/-!
# The shortest decimal in an interval

A number is known through an interval of naturals around it: every decimal inside
stands for it. Among the multiples of powers of ten in the interval the ones of
the coarsest power have the fewest digits, and the nearest of those to the number
is its shortest decimal. The finest power is one, whose multiples include the
number itself, so there always is one.
-/

namespace CardTelemetry.Decimal

/-- A number and the bounds of what stands for it; `closed` says whether the bounds
themselves do. -/
structure Interval where
  low : Nat
  value : Nat
  high : Nat
  closed : Bool

/-- Which neighbour a number halfway between two is written as. -/
inductive Tie where
  | up
  | even
deriving DecidableEq

namespace Interval

def holds (i : Interval) (n : Nat) : Bool :=
  if i.closed then decide (i.low ≤ n) && decide (n ≤ i.high)
  else decide (i.low < n) && decide (n < i.high)

/-- How often `10 ^ k` goes into the number. -/
def quotient (i : Interval) (k : Nat) : Nat := i.value / Nat.pow 10 k

/-- The multiple of `10 ^ k` at or below the number is in the interval. -/
def lowerFits (i : Interval) (k : Nat) : Bool := i.holds (i.quotient k * Nat.pow 10 k)

/-- The multiple of `10 ^ k` above the number is in the interval. -/
def upperFits (i : Interval) (k : Nat) : Bool := i.holds ((i.quotient k + 1) * Nat.pow 10 k)

def fits (i : Interval) (k : Nat) : Bool := i.lowerFits k || i.upperFits k

end Interval

/-- The largest positive `k` up to a bound that passes a test, and 0 if none does. -/
def largest (test : Nat → Bool) : Nat → Nat
  | 0 => 0
  | k + 1 => if test (k + 1) then k + 1 else largest test k

namespace Interval

def power (i : Interval) : Nat := largest i.fits (Nat.toDigits 10 i.high).length

/-- The multiple of `10 ^ k` in the interval that is nearest to the number. -/
def nearest (i : Interval) (tie : Tie) (k : Nat) : Nat :=
  let q := i.quotient k
  if !i.upperFits k then q
  else if !i.lowerFits k then q + 1
  else
    let rest := i.value % Nat.pow 10 k
    if 2 * rest < Nat.pow 10 k then q
    else if Nat.pow 10 k < 2 * rest then q + 1
    else if tie = .even ∧ q % 2 = 0 then q
    else q + 1

/-- The digits of the shortest decimal, to be followed by `power` zeros. -/
def shortest (i : Interval) (tie : Tie) : Nat := i.nearest tie i.power

end Interval

end CardTelemetry.Decimal
