import SensorLog.Decimal.Fixed
import SensorLog.Decimal.Shortest

/-!
# Styles of writing a finite number

A `Style` says which digits are taken and where an exponent is written. `Style.write` follows it.
A number without a fraction always shows `.0` in positional writing.
-/

namespace SensorLog.Decimal

namespace Scientific

/-- Moves trailing zeros of the digits into the exponent, at most `fuel` of them. -/
def stripZeros : Nat → Scientific → Scientific
  | 0, s => s
  | fuel + 1, s =>
    if s.digits ≠ 0 ∧ s.digits % 10 = 0 then stripZeros fuel ⟨s.digits / 10, s.exponent + 1⟩ else s

/-- The same number with digits that do not end in zero. -/
def normalize (s : Scientific) : Scientific :=
  if s.digits = 0 then ⟨0, 0⟩ else s.stripZeros (digitCount s.digits)

/-- The exponent of the first digit. -/
def leading (s : Scientific) : Int :=
  s.exponent + (digitCount s.digits : Int) - 1

/-- Without an exponent part: zeros are filled in on either side. -/
def positional (s : Scientific) : String :=
  if 0 ≤ s.exponent then toString (s.digits * Nat.pow 10 s.exponent.toNat) ++ ".0"
  else withPoint s.digits (-s.exponent).toNat

/-- One digit before the point and an exponent part that always shows its sign. -/
def exponential (s : Scientific) : String :=
  let digits := Nat.toDigits 10 s.digits
  let fraction := digits.drop 1
  let e := s.leading
  String.ofList (digits.take 1)
    ++ (if fraction.isEmpty then "" else "." ++ String.ofList fraction)
    ++ "e" ++ (if e < 0 then "-" else "+") ++ toString e.natAbs

end Scientific

/-- A way of writing finite numbers. -/
structure Style where
  /-- Which of two equally near shortest decimals is written. -/
  tie : Tie
  /-- Whether a number without a fraction is written out exactly instead of with the fewest
      digits. -/
  exactWhole : Bool
  /-- The least leading exponent written positionally and the least above it that is not; with
      `none` an exponent part is never written. -/
  positional : Option (Int × Int)

/-- The text of a magnitude in a style. -/
def Style.write (style : Style) (m : Magnitude) : String :=
  if style.exactWhole && m.isWhole then fixed 1 m
  else
    let s := (shortest style.tie m).normalize
    match style.positional with
    | none => s.positional
    | some (least, tooLarge) =>
      if s.digits = 0 ∨ (least ≤ s.leading ∧ s.leading < tooLarge) then s.positional
      else s.exponential

end SensorLog.Decimal
