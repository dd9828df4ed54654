import SensorLog.Frame.Reader
import SensorLog.Row.Basic

/-!
# Log transfers

A `Transfer` takes packets in and gives rows out. `turn` is one pass of its loop: it either stops
with an answer or goes on after one row was written; `advance` repeats it, `feed` adds a packet
first, and `retryPending` spends the remaining attempts on a corrupt payload. Every answer comes
with the events that led to it. A failed transfer reports its state once and stays closed.
-/

namespace SensorLog

/-- The settings of a transfer. -/
structure Settings where
  /-- Write raw readings instead of quantities. -/
  raw : Bool := false
  /-- Stop after this many entries. -/
  maxEntries? : Option Nat := none
  /-- Packets that may wait. -/
  capacity : Nat := PacketQueue.defaultCapacity
  /-- Attempts that are remembered. -/
  logLimit : Nat := AttemptLog.defaultLimit
  /-- Packet orders for corrupt payloads. -/
  plan : RetryPlan := .default

/-- Where a transfer is in its life. -/
inductive Phase
  | running
  | complete
  | failed
deriving DecidableEq, Repr

/-- The answer to a packet. -/
inductive Progress
  /-- More packets are wanted. -/
  | more
  /-- The transfer is over. -/
  | complete (entries : Nat)
deriving DecidableEq, Repr

/-- A log transfer on its way. -/
structure Transfer (σ : Type) where
  settings : Settings
  registry : Registry
  codec : RecordCodec
  reader : FrameReader
  retries : Retries
  sink : σ
  /-- Rows that the sink took. -/
  entries : Nat := 0
  /-- The columns of the last row, or of the last attempt to write one. -/
  lastColumns? : Option (List String) := none
  phase : Phase := .running

/-- The answer of a transfer with the transfer after it and the events on the way. -/
structure Reply (σ : Type) where
  result : Except TransferError Progress
  transfer : Transfer σ
  events : List Event := []

/-- The reply with events that came before it. -/
def Reply.after {σ : Type} (reply : Reply σ) (events : List Event) : Reply σ :=
  { reply with events := events ++ reply.events }

/-- One pass of the loop. -/
inductive Turn (σ : Type)
  /-- There is an answer. -/
  | stop (reply : Reply σ)
  /-- A row was written; there may be more. -/
  | again (transfer : Transfer σ) (events : List Event)

namespace Transfer

variable {σ : Type}

/-- A transfer whose payloads are decoded by the given codec. -/
def ofCodec (settings : Settings) (registry : Registry) (codec : RecordCodec) (sink : σ) :
    Transfer σ :=
  { settings, registry, codec, sink
    reader := .new settings.capacity settings.logLimit
    retries := { plan := settings.plan } }

/-- A transfer of log entries under a registry. -/
def new (settings : Settings) (registry : Registry) (sink : σ) : Transfer σ :=
  ofCodec settings registry registry.codec sink

/-- Whether no further entry is wanted. -/
def limitReached (t : Transfer σ) : Bool :=
  match t.settings.maxEntries? with
  | none => false
  | some max => decide (max ≤ t.entries)

/-- The state of the transfer, for a report of its failure. -/
def report (t : Transfer σ) (error : TransferError) : Report :=
  { error, entries := t.entries, failures := t.retries.failures
    attempts := t.reader.log.attempts, packets := t.reader.queue.packets }

/-- The transfer fails. -/
def fail (t : Transfer σ) (error : TransferError) : Reply σ :=
  { result := .error error, transfer := { t with phase := .failed }
    events := [.failed (t.report error)] }

/-- The output value of a raw reading. -/
def convert (t : Transfer σ) (column : String) (raw : Int) : Except SchemaError Value :=
  if t.settings.raw then .ok (.int raw)
  else
    match t.registry.toUnit column (floatOfReading raw) with
    | .error e => .error e
    | .ok x => .ok (.real x)

/-- The output values of cells, up to the first column that is unknown. -/
def convertAll (t : Transfer σ) : List (String × Int) → Except SchemaError (List Value)
  | [] => .ok []
  | (column, raw) :: rest =>
    match t.convert column raw with
    | .error e => .error e
    | .ok value =>
      match t.convertAll rest with
      | .error e => .error e
      | .ok values => .ok (value :: values)

/-- Whether the columns differ from those of the row before. -/
def headerChanged (t : Transfer σ) (columns : List String) : Bool :=
  t.lastColumns? != some columns

variable [RowSink σ]

/-- The transfer is over, if its sink can be flushed. -/
def finish (t : Transfer σ) : Reply σ :=
  match RowSink.flush t.sink with
  | (sink, .error e) => { t with sink }.fail (.sink e)
  | (sink, .ok ()) =>
    { result := .ok (.complete t.entries), transfer := { t with sink, phase := .complete }
      events := [.complete t.entries] }

/-- Writes the row of a record. -/
def emit (t : Transfer σ) (record : Record) : Turn σ :=
  match t.convertAll record.cells with
  | .error e => .stop (t.fail (.frame (.schema e)))
  | .ok values =>
    let columns := record.columns
    let header := t.headerChanged columns
    let events := if header then [.newHeader columns] else []
    match RowSink.write t.sink { columns, values, header } with
    | (sink, .error e) =>
      .stop (({ t with sink, lastColumns? := some columns }.fail (.sink e)).after events)
    | (sink, .ok ()) =>
      .again { t with sink, lastColumns? := some columns, entries := t.entries + 1 } events

/-- Counts a failed payload: it waits for another attempt, or the transfer fails. -/
def corrupt (t : Transfer σ) (cause : SchemaError) : Reply σ :=
  let retries := t.retries.fail
  let t := { t with retries }
  match retries.action with
  | .again _ => { result := .ok .more, transfer := t, events := retries.failEvents }
  | .exhausted attempts => t.fail (.frame (.unrecoverable attempts cause))

/-- One pass of the loop: stop at the entry limit, read a frame, deal with it. -/
def turn (t : Transfer σ) : Turn σ :=
  if t.limitReached then .stop (t.finish.after [.entryLimit t.entries])
  else
    let step := t.reader.next t.codec t.retries.order?
    let read := { t with reader := step.reader }
    match step.outcome with
    | .error e => .stop ((read.fail (.frame e)).after step.events)
    | .ok .needMore => .stop { result := .ok .more, transfer := read, events := step.events }
    | .ok .endOfLog =>
      .stop (({ read with retries := t.retries.reset }.finish).after
        (step.events ++ t.retries.successEvents))
    | .ok (.frame record) =>
      match { read with retries := t.retries.reset }.emit record with
      | .stop reply => .stop (reply.after (step.events ++ t.retries.successEvents))
      | .again t' events => .again t' (step.events ++ t.retries.successEvents ++ events)
    | .ok (.corrupt cause) => .stop ((read.corrupt cause).after step.events)

theorem emit_reader {t t' : Transfer σ} {record : Record} {events : List Event}
    (h : t.emit record = .again t' events) : t'.reader = t.reader := by
  unfold emit at h
  split at h
  · cases h
  · dsimp only at h
    split at h
    · cases h
    · simp only [Turn.again.injEq] at h
      rw [← h.1]

/-- A pass that goes on has lowered the load of the reader. -/
theorem load_turn_lt {t t' : Transfer σ} {events : List Event}
    (h : t.turn = .again t' events) : t'.reader.load < t.reader.load := by
  unfold turn at h
  split at h
  · cases h
  · dsimp only at h
    split at h
    · cases h
    · cases h
    · cases h
    · rename_i record hstep
      split at h
      · cases h
      · rename_i t₁ ev he
        simp only [Turn.again.injEq] at h
        rw [← h.1, emit_reader he]
        exact FrameReader.load_next_lt hstep
    · cases h

/-- Passes of the loop until there is an answer. -/
def advance (t : Transfer σ) : Reply σ :=
  match h : t.turn with
  | .stop reply => reply
  | .again t' events =>
    have := load_turn_lt h
    t'.advance.after events
termination_by t.reader.load

/-- Takes one packet in and goes on as far as possible. A corrupt payload is read again at the next
    packet, which may be empty. -/
def feed (t : Transfer σ) (packet : Bytes) : Reply σ :=
  match t.phase with
  | .complete => { result := .ok (.complete t.entries), transfer := t }
  | .failed => { result := .error .closed, transfer := t }
  | .running =>
    match t.reader.write packet with
    | .error e => t.fail (.frame e)
    | .ok reader => { t with reader }.advance

/-- A complete transfer repeats its answer and takes nothing in. -/
theorem feed_of_complete {t : Transfer σ} (h : t.phase = .complete) (packet : Bytes) :
    t.feed packet = { result := .ok (.complete t.entries), transfer := t } := by
  simp [feed, h]

/-- A failed transfer stays closed. -/
theorem feed_of_failed {t : Transfer σ} (h : t.phase = .failed) (packet : Bytes) :
    t.feed packet = { result := .error .closed, transfer := t } := by
  simp [feed, h]

/-- The work left for retries: the load of the reader counts first, then the attempts left on its
    payload. -/
def retryLoad (t : Transfer σ) : Nat :=
  t.reader.load * (t.retries.plan.maxAttempts + 1)
    + (t.retries.plan.maxAttempts - t.retries.failures)

/-- The answer of a transfer that has nothing to do. -/
def idle (t : Transfer σ) : Reply σ :=
  match t.phase with
  | .running => { result := .ok .more, transfer := t }
  | .complete => { result := .ok (.complete t.entries), transfer := t }
  | .failed => { result := .error .closed, transfer := t }

/-- Spends the remaining attempts on a corrupt payload now, for a source that has ended or gone
    quiet. An attempt that leaves as much work as it found ends the retries; from a state that a
    transfer can reach there is none. -/
def retryPending (t : Transfer σ) : Reply σ :=
  if t.phase = .running ∧ 0 < t.retries.failures then
    let reply := t.feed []
    let events := Event.retryPending t.retries.failures :: reply.events
    match reply.result with
    | .error e => { result := .error e, transfer := reply.transfer, events }
    | .ok _ =>
      if reply.transfer.retryLoad < t.retryLoad then
        reply.transfer.retryPending.after events
      else reply.transfer.idle.after events
  else t.idle
termination_by t.retryLoad

end Transfer

end SensorLog
