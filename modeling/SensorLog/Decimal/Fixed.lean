import SensorLog.Decimal.Binary64

/-!
# A fixed number of decimal places

The exact value is rounded to `places` digits after the point and an exact half goes to the even
neighbour. Nothing is rounded twice: the quotient is taken of the exact fraction.
-/

namespace SensorLog.Decimal

/-- `num / den` rounded to the nearest integer, a half to the even one. -/
def roundHalfEven (num den : Nat) : Nat :=
  let q := num / den
  let r := num % den
  if 2 * r < den then q
  else if den < 2 * r then q + 1
  else if q % 2 = 0 then q else q + 1

theorem roundHalfEven_of_dvd {num den : Nat} (hd : 0 < den) (h : den ∣ num) :
    roundHalfEven num den = num / den := by
  have hr : num % den = 0 := Nat.mod_eq_zero_of_dvd h
  simp [roundHalfEven, hr, hd]

/-- The digits of `n` with a point before the last `places` of them. -/
def withPoint (n places : Nat) : String :=
  let digits := Nat.toDigits 10 n
  let full := List.replicate (places + 1 - digits.length) '0' ++ digits
  let whole := full.length - places
  if places = 0 then String.ofList full
  else String.ofList (full.take whole) ++ "." ++ String.ofList (full.drop whole)

/-- The magnitude with exactly `places` digits after the point. -/
def fixed (places : Nat) (m : Magnitude) : String :=
  withPoint (roundHalfEven (m.num * Nat.pow 10 places) m.den) places

end SensorLog.Decimal
