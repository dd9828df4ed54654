import SensorLog.Bytes.Hex

/-!
# Reading whole numbers

A number is an optional plus sign and digits of a base. Digits are taken from left to right, and the
first one that is no digit or takes the number past its bound decides the fault.
-/

namespace SensorLog

/-- Why a text is no number. -/
inductive NumberFault
  | empty
  | invalidDigit
  | tooLarge
  | tooSmall
deriving DecidableEq, Repr

/-- The wording of a number fault. -/
def NumberFault.message : NumberFault → String
  | empty => "cannot parse integer from empty string"
  | invalidDigit => "invalid digit found in string"
  | tooLarge => "number too large to fit in target type"
  | tooSmall => "number too small to fit in target type"

namespace Number

/-- The value of a digit in a base up to sixteen. -/
def digit? (base : Nat) (c : Char) : Option Nat :=
  (Hex.value? c).filter (· < base)

/-- Takes digits in, from the left, as long as the number stays within its bound. -/
def readDigits (base max acc : Nat) : List Char → Except NumberFault Nat
  | [] => .ok acc
  | c :: rest =>
    match digit? base c with
    | none => .error .invalidDigit
    | some d =>
      if max < acc * base + d then .error .tooLarge
      else readDigits base max (acc * base + d) rest

/-- A number up to `max`. A sign alone is an invalid digit. -/
def readNat (base max : Nat) (s : String) : Except NumberFault Nat :=
  match s.toList with
  | [] => .error .empty
  | ['+'] => .error .invalidDigit
  | '+' :: digits => readDigits base max 0 digits
  | digits => readDigits base max 0 digits

/-- A decimal number of 64 bits with a sign. -/
def readInt64 (s : String) : Except NumberFault Int :=
  match s.toList with
  | ['-'] => .error .invalidDigit
  | '-' :: digits =>
    match readDigits 10 (UInt64.size / 2) 0 digits with
    | .ok n => .ok (-(n : Int))
    | .error .tooLarge => .error .tooSmall
    | .error fault => .error fault
  | _ =>
    match readNat 10 (UInt64.size / 2 - 1) s with
    | .ok n => .ok n
    | .error fault => .error fault

/-- A number up to `max` that is decimal, or hexadecimal after `0x` or `0X`. -/
def readPrefixed (max : Nat) (s : String) : Except NumberFault Nat :=
  match s.toList with
  | '0' :: 'x' :: digits => readNat 16 max (String.ofList digits)
  | '0' :: 'X' :: digits => readNat 16 max (String.ofList digits)
  | _ => readNat 10 max s

end Number

end SensorLog
