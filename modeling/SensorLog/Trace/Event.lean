import SensorLog.Frame.Attempt
import SensorLog.Transfer.Error

/-!
# Trace events

What a transfer tells an observer while it runs. Events are values; `Event.lines` gives their text.
A failing transfer hands out a `Report` of its state, which becomes one line for the error, one per
remembered attempt and one per waiting packet.
-/

namespace SensorLog

/-- How important an event is. -/
inductive Level
  | error
  | warn
  | info
  | debug
  | trace
deriving DecidableEq, Repr

namespace Level

/-- The rank of a level; smaller is more severe. -/
def rank : Level → Nat
  | error => 0
  | warn => 1
  | info => 2
  | debug => 3
  | trace => 4

/-- The name of a level. -/
def name : Level → String
  | error => "error"
  | warn => "warn"
  | info => "info"
  | debug => "debug"
  | trace => "trace"

/-- All levels, the most severe first. -/
def all : List Level := [error, warn, info, debug, trace]

/-- The level with a name. -/
def ofName? (s : String) : Option Level :=
  all.find? (·.name == s)

end Level

/-- The state of a transfer at the moment it failed. -/
structure Report where
  error : TransferError
  entries : Nat
  failures : Nat
  attempts : List Attempt
  packets : List Bytes
deriving DecidableEq, Repr

/-- Something that happened in a transfer. -/
inductive Event
  /-- The payload is not there yet. -/
  | partialFrame (size buffered : Nat)
  /-- A payload did not decode. -/
  | frameFailed (seq size : Nat) (error : SchemaError)
  /-- The log ended in another column than the timestamp. -/
  | oddEnd (columns : List String)
  /-- The last record was read. -/
  | endOfLog (frames : Nat)
  /-- A payload will be read again, under an order. -/
  | retry (attempt : Nat) (order? : Option (List Nat))
  /-- A payload decoded after failures. -/
  | recovered (failures : Nat)
  /-- No further entry is wanted. -/
  | entryLimit (entries : Nat)
  /-- The columns changed. -/
  | newHeader (columns : List String)
  /-- The transfer is over. -/
  | complete (entries : Nat)
  /-- A failed payload is read again without new data. -/
  | retryPending (failures : Nat)
  /-- The transfer failed. -/
  | failed (report : Report)
  /-- The caller cancelled. -/
  | cancelled (packets entries : Nat)
  /-- The source closed. -/
  | sourceClosed (packets : Nat)
deriving DecidableEq, Repr

/-- One line of a trace: a message with named texts. -/
structure TraceLine where
  level : Level
  message : String
  fields : List (String × String)
deriving DecidableEq, Repr

/-- A list of columns as a field of a line. -/
def columnsText (columns : List String) : String :=
  Text.bracketed (columns.map Text.quoted)

/-- An order that may be absent as a field of a line. -/
def orderText : Option (List Nat) → String
  | none => "None"
  | some indices => "Some(" ++ Text.bracketed (indices.map toString) ++ ")"

/-- The lines of a report: the error, the remembered attempts, the waiting packets. -/
def Report.lines (r : Report) : List TraceLine :=
  ⟨.error, "log transfer failed, dumping recent frames",
      [("error", r.error.message), ("entries", toString r.entries),
       ("fail_count", toString r.failures)]⟩
    :: (r.attempts.map fun a =>
      ⟨.error, "frame",
        [("seq", toString a.seq), ("size", toString a.size), ("raw", Hex.encode a.raw),
         ("error", a.error?.getD "")]⟩)
    ++ r.packets.zipIdx.map fun (p, i) =>
      ⟨.error, "buffered packet",
        [("index", toString i), ("len", toString p.length), ("raw", Hex.encode p)]⟩

/-- The lines of an event. -/
def Event.lines : Event → List TraceLine
  | partialFrame size buffered =>
    [⟨.trace, "partial frame", [("size", toString size), ("buffered", toString buffered)]⟩]
  | frameFailed seq size error =>
    [⟨.debug, "frame failed to decode",
      [("seq", toString seq), ("size", toString size), ("error", error.message)]⟩]
  | oddEnd columns =>
    [⟨.warn, "unexpected last message keys", [("columns", columnsText columns)]⟩]
  | endOfLog frames => [⟨.debug, "end of log", [("frames", toString frames)]⟩]
  | retry attempt order? =>
    [⟨.warn, "corrupt frame, retrying with reordered packets",
      [("attempt", toString attempt), ("order", orderText order?)]⟩]
  | recovered failures =>
    [⟨.info, "recovered from corrupt frame", [("failures", toString failures)]⟩]
  | entryLimit entries => [⟨.debug, "entry limit reached", [("entries", toString entries)]⟩]
  | newHeader columns => [⟨.debug, "new header", [("columns", columnsText columns)]⟩]
  | complete entries => [⟨.info, "log transfer complete", [("entries", toString entries)]⟩]
  | retryPending failures =>
    [⟨.debug, "retrying pending frame", [("fail_count", toString failures)]⟩]
  | failed report => report.lines
  | cancelled packets entries =>
    [⟨.info, "log transfer cancelled",
      [("packets", toString packets), ("entries", toString entries)]⟩]
  | sourceClosed packets =>
    [⟨.debug, "notification channel closed", [("packets", toString packets)]⟩]

/-- The report in an event, if it is a failure. -/
def Event.report? : Event → Option Report
  | failed report => some report
  | _ => none

end SensorLog
