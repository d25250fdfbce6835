/-!
# Double-precision numbers

A double is its 64 bits: a sign, eleven bits of exponent and fifty-two of
fraction. A finite one is `significand * 2 ^ scale` up to its sign. A natural
number is rounded to the nearest double, a half to the even significand.
-/

namespace CardTelemetry

structure Binary64 where
  bits : UInt64
deriving DecidableEq

namespace Binary64

def negative (x : Binary64) : Bool := decide (Nat.pow 2 63 ≤ x.bits.toNat)

def exponentField (x : Binary64) : Nat := x.bits.toNat / Nat.pow 2 52 % Nat.pow 2 11

def fractionField (x : Binary64) : Nat := x.bits.toNat % Nat.pow 2 52

def isFinite (x : Binary64) : Bool := x.exponentField != 2047

def isNaN (x : Binary64) : Bool := !x.isFinite && x.fractionField != 0

/-- The fraction, with the leading bit that a normal number leaves out. -/
def significand (x : Binary64) : Nat :=
  if x.exponentField = 0 then x.fractionField else Nat.pow 2 52 + x.fractionField

/-- The power of two of the last bit of the significand. -/
def scale (x : Binary64) : Int := (max x.exponentField 1 : Nat) - 1075

/-- The double below a power of two is half as far away as the one above it, but for
the smallest normal number. -/
def atBinade (x : Binary64) : Bool := x.fractionField == 0 && decide (1 < x.exponentField)

def zero : Binary64 := ⟨0⟩

def one : Binary64 := ⟨0x3FF0000000000000⟩

def ofBool (b : Bool) : Binary64 := if b then one else zero

/-- A quotient rounded to the nearest natural number, a half to the even one. -/
def divideToEven (n d : Nat) : Nat :=
  let q := n / d
  let rest := n % d
  if 2 * rest < d ∨ (2 * rest = d ∧ q % 2 = 0) then q else q + 1

/-- The double nearest to a natural number below `2 ^ 1023`. A significand that is
rounded up to `2 ^ 53` carries into the exponent field. -/
def ofNat (n : Nat) : Binary64 :=
  if n = 0 then zero
  else
    let k := n.log2
    ⟨UInt64.ofNat ((k + 1022) * Nat.pow 2 52 +
      divideToEven (n * Nat.pow 2 (52 - k)) (Nat.pow 2 (k - 52)))⟩

def ofWord (n : UInt64) : Binary64 := ofNat n.toNat

end Binary64

end CardTelemetry
