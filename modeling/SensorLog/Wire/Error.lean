/-!
# Wire types and wire errors

Every field on the wire starts with a key that names a tag and one of six wire types. `WireError`
lists what can be wrong with the bytes of a message, independently of what its fields mean.
-/

namespace SensorLog

/-- How the value after a key is laid out. -/
inductive WireType
  | varint
  | sixtyFourBit
  | lengthDelimited
  | startGroup
  | endGroup
  | thirtyTwoBit
deriving DecidableEq, Repr

namespace WireType

/-- The number of a wire type in a key. -/
def code : WireType → Nat
  | varint => 0
  | sixtyFourBit => 1
  | lengthDelimited => 2
  | startGroup => 3
  | endGroup => 4
  | thirtyTwoBit => 5

/-- The wire type with a number, if there is one. -/
def ofCode? : Nat → Option WireType
  | 0 => some varint
  | 1 => some sixtyFourBit
  | 2 => some lengthDelimited
  | 3 => some startGroup
  | 4 => some endGroup
  | 5 => some thirtyTwoBit
  | _ => none

/-- The name of a wire type in messages. -/
def name : WireType → String
  | varint => "Varint"
  | sixtyFourBit => "SixtyFourBit"
  | lengthDelimited => "LengthDelimited"
  | startGroup => "StartGroup"
  | endGroup => "EndGroup"
  | thirtyTwoBit => "ThirtyTwoBit"

@[simp] theorem ofCode?_code (w : WireType) : ofCode? w.code = some w := by
  cases w <;> rfl

theorem code_lt (w : WireType) : w.code < 8 := by
  cases w <;> decide

end WireType

/-- What is wrong with the bytes of a message. -/
inductive WireError
  /-- A number that does not end, or does not fit 64 bits. -/
  | invalidVarint
  /-- A key above 32 bits. -/
  | invalidKey (key : Nat)
  /-- A key with an unused wire type. -/
  | invalidWireType (code : Nat)
  /-- A key with tag zero. -/
  | zeroTag
  /-- A number field with another wire type than `varint`. -/
  | notVarint (actual : WireType)
  /-- Fewer bytes than announced. -/
  | underflow
  /-- A packed field whose last element reaches past its end. -/
  | lengthExceeded
  /-- A group closed under a tag that was not opened. -/
  | unexpectedEndGroup
  /-- Groups nested too deep. -/
  | tooDeep
deriving DecidableEq, Repr

/-- The wording of a wire error. -/
def WireError.message : WireError → String
  | invalidVarint => "invalid varint"
  | invalidKey key => s!"invalid key value: {key}"
  | invalidWireType code => s!"invalid wire type value: {code}"
  | zeroTag => "invalid tag value: 0"
  | notVarint actual => s!"invalid wire type: {actual.name} (expected Varint)"
  | underflow => "buffer underflow"
  | lengthExceeded => "delimited length exceeded"
  | unexpectedEndGroup => "unexpected end group tag"
  | tooDeep => "recursion limit reached"

end SensorLog
