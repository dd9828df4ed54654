/-!
# Binary64 numbers as exact rationals

`Binary64.ofBits` splits a 64-bit pattern into sign, significand and exponent. A finite number is
`± significand * 2 ^ exponent`, so all further decimal work is exact arithmetic on naturals:
`Magnitude.num` over `Magnitude.den`.
-/

namespace SensorLog

/-- The number `significand * 2 ^ exponent`. -/
structure Magnitude where
  significand : Nat
  exponent : Int
deriving DecidableEq, Repr

namespace Magnitude

/-- Numerator of the magnitude as a fraction. -/
def num (m : Magnitude) : Nat :=
  m.significand <<< m.exponent.toNat

/-- Denominator of the magnitude as a fraction: a power of two. -/
def den (m : Magnitude) : Nat :=
  1 <<< (-m.exponent).toNat

theorem den_pos (m : Magnitude) : 0 < m.den := by
  rw [den, Nat.one_shiftLeft]
  exact Nat.two_pow_pos _

/-- Whether the magnitude has no fractional part. -/
def isWhole (m : Magnitude) : Bool :=
  m.num % m.den == 0

/-- The exponent of the smallest subnormal, and so of every subnormal. -/
def leastExponent : Int := -1074

/-- The leading significand bit of a normal number, which its pattern leaves out. -/
def hiddenBit : Nat := 1 <<< 52

/-- Whether the next smaller number is only half a step away: at a power of two, above the
    subnormal range. -/
def isLowBoundary (m : Magnitude) : Bool :=
  m.significand == hiddenBit && decide (leastExponent < m.exponent)

end Magnitude

/-- A binary64 number, taken apart. -/
inductive Binary64
  | nan
  | infinite (negative : Bool)
  | finite (negative : Bool) (magnitude : Magnitude)
deriving DecidableEq, Repr

namespace Binary64

/-- One sign bit, eleven exponent bits, fifty-two fraction bits. -/
def ofBits (w : UInt64) : Binary64 :=
  let n := w.toNat
  let negative := n >>> 63 == 1
  let exponent := (n >>> 52) % 2048
  let fraction := n % Magnitude.hiddenBit
  if exponent = 2047 then
    if fraction = 0 then .infinite negative else .nan
  else if exponent = 0 then
    .finite negative ⟨fraction, Magnitude.leastExponent⟩
  else
    .finite negative ⟨Magnitude.hiddenBit + fraction, Int.ofNat exponent - 1075⟩

/-- The number a float holds. -/
def ofFloat (x : Float) : Binary64 :=
  ofBits x.toBits

end Binary64

end SensorLog
