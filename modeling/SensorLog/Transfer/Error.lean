import SensorLog.Duration
import SensorLog.Frame.Error
import SensorLog.System.Error

/-!
# Transfer errors

The ways in which a log transfer ends early: by its data, by its sink, by its source or by its
caller.
-/

namespace SensorLog

/-- Why a transfer ended early. -/
inductive TransferError
  /-- The data could not be read as frames. -/
  | frame (cause : FrameError)
  /-- The sink refused a row. -/
  | sink (cause : IoError)
  /-- The transfer has already failed. -/
  | closed
  /-- The source went away. -/
  | disconnected
  /-- The caller cancelled. -/
  | cancelled
  /-- Nothing arrived for this long. -/
  | timeout (limit : Duration)
deriving DecidableEq, Repr

namespace TransferError

/-- Whether the data itself is at fault. -/
def isDataError : TransferError → Bool
  | frame _ => true
  | _ => false

/-- The wording of a transfer error. -/
def message : TransferError → String
  | frame cause => cause.message
  | sink cause => s!"output sink error: {cause.message}"
  | closed => "session closed after a fatal error"
  | disconnected => "notification source disconnected"
  | cancelled => "transfer cancelled"
  | timeout limit => s!"no data received for {limit.text}"

end TransferError

end SensorLog
