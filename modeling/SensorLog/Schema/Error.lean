import SensorLog.Entry.Wire

/-!
# Schema errors

What can go wrong between bytes, fields and names: a payload that is no entry, a name that the
registry does not know, a device message of the wrong form. Errors that mean that program and device
disagree on the fields are a `isMismatch`; no retry can mend them.
-/

namespace SensorLog

/-- An error of the field registry, of the mapping of entries to columns, or of a device message. -/
inductive SchemaError
  /-- The payload is no log entry. -/
  | malformed (cause : EntryError)
  /-- A field that every record needs is absent. -/
  | missingField (name : String)
  /-- A field has more values than axes, or several values without axes. -/
  | tooManyValues (field : String) (count axes : Nat)
  /-- No field has this protocol name. -/
  | unknownField (name : String)
  /-- No field owns this column. -/
  | unknownColumn (name : String)
  /-- No field that can be switched has this name. -/
  | unknownSensor (name : String)
  /-- A name or column occurs twice in a registry. -/
  | duplicate (name : String)
  /-- A passcode that is not eight ASCII characters. -/
  | invalidPasscode
  /-- A device message of the wrong length. -/
  | invalidLength (expected actual : Nat)
  /-- A response that answers another command. -/
  | unexpectedResponse (expected actual : UInt8)
  /-- A code without a meaning. -/
  | unknownCode (kind : String) (value : UInt8)
deriving DecidableEq, Repr

namespace SchemaError

/-- Whether the error means that program and device disagree on the fields of a record. -/
def isMismatch : SchemaError → Bool
  | unknownField _ => true
  | unknownColumn _ => true
  | _ => false

/-- The wording of a schema error. -/
def message : SchemaError → String
  | malformed cause => s!"malformed log entry: {cause.message}"
  | missingField name => s!"log entry is missing required field '{name}'"
  | tooManyValues field count axes => s!"field '{field}' has {count} values but only {axes} axes"
  | unknownField name => s!"unknown protocol field '{name}' (firmware schema mismatch?)"
  | unknownColumn name => s!"unknown column '{name}'"
  | unknownSensor name => s!"unknown sensor '{name}'"
  | duplicate name => s!"duplicate field or column '{name}' in registry"
  | invalidPasscode => "password must be 8 chars and ascii only"
  | invalidLength expected actual => s!"expected {expected} bytes, got {actual}"
  | unexpectedResponse expected actual =>
    s!"unexpected command id in response (expected 0x{Hex.upperByte expected}, "
      ++ s!"got 0x{Hex.upperByte actual})"
  | unknownCode kind value => s!"unknown {kind} code 0x{Hex.upperByte value}"

end SchemaError

end SensorLog
