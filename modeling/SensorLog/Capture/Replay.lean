import SensorLog.Capture.Line
import SensorLog.Failure
import SensorLog.Transfer.Basic

/-!
# Replaying a capture

A capture is fed to a transfer line by line. The replay succeeds when the transfer completes; it
fails at the first line that is no packet and at the first error of the transfer. When the lines run
out, a corrupt payload gets its remaining attempts before the replay is given up.
-/

namespace SensorLog

/-- How a replay ended, with the transfer after it. -/
structure Replay (σ : Type) where
  transfer : Transfer σ
  result : Except Failure Unit

namespace Capture

variable {σ : Type} [RowSink σ]

/-- The context of failures of the transfer. -/
def decodeContext : String := "decode"

/-- The context of failures to read the capture. -/
def readContext : String := "read capture"

/-- The failure of a line that is no packet. -/
def badLine (number : Nat) (fault : Hex.Fault) : Failure :=
  ⟨ExitCode.invalidData, s!"capture line {number}: {fault.message}"⟩

/-- The failure of a capture that ends too early. -/
def tooShort (entries : Nat) : Failure :=
  ⟨ExitCode.failure, s!"capture ended before the end of the log ({entries} entries decoded)"⟩

/-- Gives up a transfer that is not complete; what its sink took is flushed first. -/
def abandon (t : Transfer σ) : Replay σ :=
  let (sink, flushed) := RowSink.flush t.sink
  { transfer := { t with sink }
    result := match flushed with
      | .error e => .error (.ofIo "write rows" e)
      | .ok () => .error (tooShort t.entries) }

/-- The end of a replay whose lines have run out. -/
def settle (t : Transfer σ) : Replay σ :=
  if t.retries.failures = 0 then abandon t
  else
    let reply := t.retryPending
    match reply.result with
    | .error e => { transfer := reply.transfer, result := .error (.ofTransfer decodeContext e) }
    | .ok (.complete _) => { transfer := reply.transfer, result := .ok () }
    | .ok .more => abandon reply.transfer

/-- Replays lines, of which the first has the given number. -/
def replayFrom (t : Transfer σ) (number : Nat) : List Bytes → Replay σ
  | [] => settle t
  | line :: rest =>
    match Bytes.text? line with
    | none => { transfer := t, result := .error (.ofIo readContext .notText) }
    | some text =>
      match packet? text with
      | .error fault => { transfer := t, result := .error (badLine number fault) }
      | .ok none => replayFrom t (number + 1) rest
      | .ok (some packet) =>
        let reply := t.feed packet
        match reply.result with
        | .error e => { transfer := reply.transfer, result := .error (.ofTransfer decodeContext e) }
        | .ok (.complete _) => { transfer := reply.transfer, result := .ok () }
        | .ok .more => replayFrom reply.transfer (number + 1) rest

/-- Replays a capture. -/
def replay (t : Transfer σ) (capture : Bytes) : Replay σ :=
  replayFrom t 1 (lines capture)

end Capture

end SensorLog
