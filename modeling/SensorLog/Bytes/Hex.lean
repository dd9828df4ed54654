/-!
# Bytes and their hexadecimal text

A byte string is a `List UInt8`, first byte first. `Hex.encode` writes two lowercase digits per
byte and nothing between them. `Hex.value?` reads a single digit of either case.
-/

namespace SensorLog

/-- A string of bytes, first byte first. -/
abbrev Bytes := List UInt8

namespace Hex

/-- The lowercase digit of a value below sixteen. -/
def digit (n : Nat) : Char :=
  if n < 10 then Char.ofNat (0x30 + n) else Char.ofNat (0x57 + n)

/-- The uppercase digit of a value below sixteen. -/
def upperDigit (n : Nat) : Char :=
  if n < 10 then Char.ofNat (0x30 + n) else Char.ofNat (0x37 + n)

/-- The value of a digit of either case. -/
def value? (c : Char) : Option Nat :=
  if '0' ≤ c ∧ c ≤ '9' then some (c.toNat - 0x30)
  else if 'a' ≤ c ∧ c ≤ 'f' then some (c.toNat - 0x57)
  else if 'A' ≤ c ∧ c ≤ 'F' then some (c.toNat - 0x37)
  else none

/-- The two digits of a byte, high half first. -/
def ofByte (b : UInt8) : List Char :=
  [digit (b.toNat / 16), digit (b.toNat % 16)]

/-- Two lowercase digits per byte. -/
def encode (bs : Bytes) : String :=
  String.ofList (bs.flatMap ofByte)

/-- A byte as two uppercase digits. -/
def upperByte (b : UInt8) : String :=
  String.ofList [upperDigit (b.toNat / 16), upperDigit (b.toNat % 16)]

/-- The lowercase digits of `n` with zeros in front up to `width` digits. -/
def padded (width n : Nat) : String :=
  let digits := Nat.toDigits 16 n
  String.ofList (List.replicate (width - digits.length) '0' ++ digits)

theorem value?_digit {n : Nat} (h : n < 16) : value? (digit n) = some n := by
  have : ∀ m : Fin 16, value? (digit m) = some m.val := by decide
  exact this ⟨n, h⟩

end Hex

end SensorLog
