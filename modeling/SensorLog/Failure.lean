import SensorLog.Transfer.Error

/-!
# Exit codes

A command that fails ends with a message and an exit code. The code depends on the cause alone; the
message puts a context before the wording of the cause.
-/

namespace SensorLog

namespace ExitCode

/-- All went well. -/
def success : Nat := 0

/-- The command did not reach its goal. -/
def failure : Nat := 1

/-- The command line was refused. -/
def badArguments : Nat := 2

/-- The source of the data went away. -/
def transport : Nat := 3

/-- Access was denied. -/
def denied : Nat := 50

/-- The data is not valid. -/
def invalidData : Nat := 60

/-- The request makes no sense. -/
def usage : Nat := 64

/-- The program stopped itself over a fault of its own. -/
def fault : Nat := 101

/-- Time ran out. -/
def timeout : Nat := 124

/-- Something that should not happen. -/
def internal : Nat := 125

end ExitCode

/-- How a command fails. -/
structure Failure where
  code : Nat
  message : String
deriving DecidableEq, Repr

namespace Failure

/-- The exit code of an error of a file or stream. -/
def codeOfIo (e : IoError) : Nat :=
  match e.kind with
  | .permissionDenied => ExitCode.denied
  | .timedOut => ExitCode.timeout
  | .wouldBlock => ExitCode.timeout
  | .notFound => ExitCode.failure
  | .invalidData => ExitCode.invalidData
  | _ => ExitCode.internal

/-- The exit code of a schema error. -/
def codeOfSchema : SchemaError → Nat
  | .unknownSensor _ => ExitCode.usage
  | .invalidPasscode => ExitCode.usage
  | _ => ExitCode.invalidData

/-- The exit code of a frame error. -/
def codeOfFrame : FrameError → Nat
  | .invalidOrder _ => ExitCode.usage
  | .endOfBuffer _ _ => ExitCode.internal
  | _ => ExitCode.invalidData

/-- A failure of a file or stream. -/
def ofIo (context : String) (e : IoError) : Failure :=
  ⟨codeOfIo e, s!"{context}: {e.message}"⟩

/-- A failure of fields, names or device messages. -/
def ofSchema (context : String) (e : SchemaError) : Failure :=
  ⟨codeOfSchema e, s!"{context}: {e.message}"⟩

/-- A failure of packets or frames. -/
def ofFrame (context : String) (e : FrameError) : Failure :=
  ⟨codeOfFrame e, s!"{context}: {e.message}"⟩

/-- A failure of a transfer. A refusing sink counts as the error that it refused with. -/
def ofTransfer (context : String) (e : TransferError) : Failure :=
  match e with
  | .frame cause => ofFrame context cause
  | .sink cause => ofIo context cause
  | .timeout _ => ⟨ExitCode.timeout, s!"{context}: {e.message}"⟩
  | .disconnected => ⟨ExitCode.transport, s!"{context}: {e.message}"⟩
  | .cancelled => ⟨ExitCode.failure, s!"{context}: {e.message}"⟩
  | .closed => ⟨ExitCode.internal, s!"{context}: {e.message}"⟩

end Failure

end SensorLog
