import SensorLog.Schema.Error
import SensorLog.Text.Quoted

/-!
# Frame errors

Errors that end the reading of frames. None of them is mended by more data.
-/

namespace SensorLog

/-- An error of packets or frames. -/
inductive FrameError
  /-- A frame that announces no payload. -/
  | zeroLengthFrame
  /-- Packets came faster than frames were read. -/
  | bufferFull (capacity : Nat)
  /-- More bytes were asked for than there are. -/
  | endOfBuffer (requested available : Nat)
  /-- A payload whose size does not fit one byte. -/
  | payloadTooLarge (size max : Nat)
  /-- A packet order that is no permutation. -/
  | invalidOrder (indices : List Nat)
  /-- The payload has fields that the registry does not know. -/
  | schema (cause : SchemaError)
  /-- A frame failed to decode under every packet order. -/
  | unrecoverable (attempts : Nat) (cause : SchemaError)
deriving DecidableEq, Repr

/-- The wording of a frame error. -/
def FrameError.message : FrameError → String
  | zeroLengthFrame => "zero-length frame"
  | bufferFull capacity => s!"packet buffer full ({capacity} packets)"
  | endOfBuffer requested available =>
    s!"end of packet buffer ({requested} bytes requested, {available} available)"
  | payloadTooLarge size max => s!"payload too large ({size} bytes, max {max})"
  | invalidOrder indices =>
    s!"invalid packet order {Text.bracketed (indices.map toString)}"
  | schema cause => s!"record schema mismatch: {cause.message}"
  | unrecoverable attempts cause =>
    s!"unrecoverable corrupt frame after {attempts} attempts: {cause.message}"

end SensorLog
