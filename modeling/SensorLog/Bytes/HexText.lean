import SensorLog.Text.Blank
import SensorLog.Text.Number
import SensorLog.Text.Utf8

/-!
# Reading bytes from hexadecimal text

`Hex.read` drops ASCII blanks and takes the remaining bytes of the text two by two. Each pair is
read as a number in base sixteen, sign rule included, so a plus sign before a single digit is
accepted.
-/

namespace SensorLog.Hex

/-- Why a text gives no bytes. -/
inductive Fault
  /-- The digits do not pair up. -/
  | oddLength (digits : Nat)
  /-- A pair cuts a character in two. -/
  | cutCharacter (cut : Utf8.Fault)
  /-- A pair that is no number. -/
  | badPair (pair : String)
deriving DecidableEq, Repr

/-- The wording of a fault. -/
def Fault.message : Fault → String
  | oddLength digits => s!"odd number of hex digits ({digits})"
  | cutCharacter cut => cut.message
  | badPair pair => s!"invalid hex byte '{pair}'"

/-- The byte of a pair. -/
def readPair (a b : UInt8) : Except Fault UInt8 :=
  match Utf8.fault? [a, b] with
  | some cut => .error (.cutCharacter cut)
  | none =>
    let pair := (Bytes.text? [a, b]).getD ""
    match Number.readNat 16 255 pair with
    | .ok n => .ok (UInt8.ofNat n)
    | .error _ => .error (.badPair pair)

/-- The bytes of pairs, up to the first bad one. -/
def readPairs : Bytes → Except Fault Bytes
  | a :: b :: rest =>
    match readPair a b with
    | .error fault => .error fault
    | .ok byte =>
      match readPairs rest with
      | .error fault => .error fault
      | .ok bytes => .ok (byte :: bytes)
  | _ => .ok []

/-- The bytes of a text. -/
def read (text : String) : Except Fault Bytes :=
  let digits := (Bytes.ofText text).filter fun b => !Text.isAsciiBlank b
  if digits.length % 2 = 1 then .error (.oddLength digits.length) else readPairs digits

end SensorLog.Hex
