import SensorLog.Transfer.Basic

/-!
# Driving a transfer

A source delivers packets in the order in which they were sent and then comes to an end: it closes,
it stays quiet for too long, or the caller cancels. `drive` feeds the packets and stops at the first
answer other than "more". Before a closed or quiet source is reported, a corrupt payload gets its
remaining attempts; after a cancellation it does not.
-/

namespace SensorLog

/-- How a source of packets comes to its end. -/
inductive Ending
  /-- Every sender is gone. -/
  | closed
  /-- Nothing came for this long. -/
  | quiet (limit : Duration)
  /-- The caller wants no more. -/
  | cancelled
deriving DecidableEq, Repr

/-- The answer of a driven transfer: the number of entries, or why it ended early. -/
structure Drive (σ : Type) where
  result : Except TransferError Nat
  transfer : Transfer σ
  events : List Event := []

/-- The answer with events that came before it. -/
def Drive.after {σ : Type} (d : Drive σ) (events : List Event) : Drive σ :=
  { d with events := events ++ d.events }

namespace Transfer

variable {σ : Type} [RowSink σ]

/-- Gives a corrupt payload its remaining attempts; if that does not complete the transfer, it ends
    with the given error. -/
def settle (t : Transfer σ) (error : TransferError) : Drive σ :=
  if t.retries.failures = 0 then { result := .error error, transfer := t }
  else
    let reply := t.retryPending
    { transfer := reply.transfer, events := reply.events
      result := match reply.result with
        | .error e => .error e
        | .ok (.complete n) => .ok n
        | .ok .more => .error error }

/-- The answer when the source has come to its end after `received` packets. -/
def conclude (t : Transfer σ) (received : Nat) : Ending → Drive σ
  | .closed => (t.settle .disconnected).after [.sourceClosed received]
  | .quiet limit => t.settle (.timeout limit)
  | .cancelled =>
    { result := .error .cancelled, transfer := t, events := [.cancelled received t.entries] }

/-- Feeds packets until there is an answer, counting those received. -/
def driveFrom (t : Transfer σ) (received : Nat) (ending : Ending) : List Bytes → Drive σ
  | [] => t.conclude received ending
  | packet :: rest =>
    let reply := t.feed packet
    match reply.result with
    | .error e => { result := .error e, transfer := reply.transfer, events := reply.events }
    | .ok (.complete n) => { result := .ok n, transfer := reply.transfer, events := reply.events }
    | .ok .more => (reply.transfer.driveFrom (received + 1) ending rest).after reply.events

/-- Feeds the packets of a source until the transfer has an answer or the source ends. -/
def drive (t : Transfer σ) (packets : List Bytes) (ending : Ending) : Drive σ :=
  t.driveFrom 0 ending packets

end Transfer

end SensorLog
