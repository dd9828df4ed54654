import SensorLog.Frame.Retry
import SensorLog.Packet.Queue
import SensorLog.Record.Codec

/-!
# Reading frames from packets

A `FrameReader` takes packets in and gives records out. The length byte of a frame is consumed as
soon as it is there and kept as `pending`; the payload is consumed only once it decodes, so a failed
payload can be read again under another packet order. `load` bounds the work that is left:
`load_next_lt` says that each decoded frame lowers it.
-/

namespace SensorLog

/-- What one step of reading gives. -/
inductive Outcome
  /-- The next frame is not complete. -/
  | needMore
  /-- A record. -/
  | frame (record : Record)
  /-- The record that ends the log. -/
  | endOfLog
  /-- The payload did not decode and is still there. -/
  | corrupt (cause : SchemaError)
deriving DecidableEq, Repr

/-- Packets on their way to becoming records. -/
structure FrameReader where
  queue : PacketQueue
  /-- The announced length of the frame whose payload is awaited. -/
  pending : Option Nat := none
  log : AttemptLog
  /-- Frames decoded so far. -/
  frames : Nat := 0
deriving DecidableEq, Repr

/-- The result of one step of reading. -/
structure ReadStep where
  outcome : Except FrameError Outcome
  reader : FrameReader
  events : List Event := []

namespace FrameReader

/-- A reader without packets. -/
def new (capacity limit : Nat) : FrameReader :=
  { queue := { capacity }, log := { limit } }

/-- Takes one packet in. -/
def write (r : FrameReader) (packet : Bytes) : Except FrameError FrameReader :=
  match r.queue.write packet with
  | .error e => .error e
  | .ok queue => .ok { r with queue }

/-- Remembers a run of the codec. -/
def remember (r : FrameReader) (size : Nat) (raw : Bytes) (error? : Option SchemaError) :
    FrameReader :=
  { r with log := r.log.record ⟨r.frames, size, raw, error?.map (·.message)⟩ }

/-- The reader after a payload was decoded and taken from the queue. -/
def accept (r : FrameReader) (queue : PacketQueue) (size : Nat) (raw : Bytes) : FrameReader :=
  { r.remember size raw none with queue, pending := none, frames := r.frames + 1 }

/-- Reads a payload of known size. -/
def readPayload (r : FrameReader) (codec : RecordCodec) (order? : Option PacketOrder)
    (size : Nat) : ReadStep :=
  let window := r.queue.peek size order?
  if window.length < size then
    { outcome := .ok .needMore, reader := r, events := [.partialFrame size window.length] }
  else
    match codec.decode window with
    | .ok record =>
      match r.queue.seek size order? with
      | .error e => { outcome := .error e, reader := r }
      | .ok queue =>
        let r' := r.accept queue size window
        if record.isEndOfLog then
          { outcome := .ok .endOfLog, reader := r'
            events :=
              (if record.isOddEnd codec.timestampColumn then [.oddEnd record.columns] else [])
                ++ [.endOfLog r'.frames] }
        else { outcome := .ok (.frame record), reader := r' }
    | .error cause =>
      let r' := r.remember size window (some cause)
      if cause.isMismatch then { outcome := .error (.schema cause), reader := r' }
      else
        { outcome := .ok (.corrupt cause), reader := r'
          events := [.frameFailed r.frames size cause] }

/-- Reads the next frame under a packet order. -/
def next (r : FrameReader) (codec : RecordCodec) (order? : Option PacketOrder) : ReadStep :=
  match r.pending with
  | some size => r.readPayload codec order? size
  | none =>
    if r.queue.isEmpty then { outcome := .ok .needMore, reader := r }
    else
      match r.queue.getByte with
      | .error e => { outcome := .error e, reader := r }
      | .ok (b, queue) =>
        if b = 0 then { outcome := .error .zeroLengthFrame, reader := { r with queue } }
        else
          { r with queue, pending := some b.toNat : FrameReader }.readPayload codec order? b.toNat

/-- The bytes that are still to be consumed, and one for a frame that has been begun. -/
def load (r : FrameReader) : Nat :=
  r.queue.size + if r.pending.isSome then 1 else 0

/-- A payload is taken from the queue when it decodes, and only then. -/
theorem readPayload_frame {r : FrameReader} {codec : RecordCodec} {order? : Option PacketOrder}
    {size : Nat} {record : Record}
    (h : (r.readPayload codec order? size).outcome = .ok (.frame record)) :
    ∃ queue, r.queue.seek size order? = .ok queue ∧
      (r.readPayload codec order? size).reader
        = r.accept queue size (r.queue.peek size order?) := by
  unfold readPayload at h ⊢
  dsimp only at h ⊢
  split at h
  · simp at h
  · rename_i hw
    rw [if_neg hw]
    split at h
    · split at h
      · simp at h
      · rename_i queue hq
        refine ⟨queue, hq, ?_⟩
        split at h
        · simp at h
        · rename_i record' hd _ _ hend
          simp only [hend, if_false, Bool.false_eq_true]
    · split at h <;> simp at h

theorem load_readPayload_lt {r : FrameReader} {codec : RecordCodec} {order? : Option PacketOrder}
    {size : Nat} {record : Record} (hp : r.pending = some size)
    (h : (r.readPayload codec order? size).outcome = .ok (.frame record)) :
    (r.readPayload codec order? size).reader.load < r.load := by
  obtain ⟨queue, hq, hr⟩ := readPayload_frame h
  have hs := PacketQueue.size_seek hq
  rw [hr]
  simp only [load, accept, hs, hp, Option.isSome_some, Option.isSome_none, if_true,
    Bool.false_eq_true, if_false]
  omega

/-- Every decoded frame lowers the load. -/
theorem load_next_lt {r : FrameReader} {codec : RecordCodec} {order? : Option PacketOrder}
    {record : Record} (h : (r.next codec order?).outcome = .ok (.frame record)) :
    (r.next codec order?).reader.load < r.load := by
  unfold next at h ⊢
  split at h
  · rename_i size hp
    exact load_readPayload_lt hp h
  · rename_i hp
    split at h
    · simp at h
    · rename_i he
      rw [if_neg he]
      split at h
      · simp at h
      · rename_i b queue hb
        split at h
        · simp at h
        · rename_i hz
          simp only [hz, if_false]
          have hlt := load_readPayload_lt (r := { r with queue, pending := some b.toNat }) rfl h
          have hsize := PacketQueue.size_getByte hb
          have hpos : r.queue.size ≠ 0 := by simpa [PacketQueue.isEmpty] using he
          refine Nat.lt_of_lt_of_le hlt ?_
          simp only [load, hp, Option.isSome_some, Option.isSome_none, if_true,
            Bool.false_eq_true, if_false]
          omega

end FrameReader

end SensorLog
