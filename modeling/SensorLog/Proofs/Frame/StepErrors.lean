import SensorLog.Proofs.Frame.Reading
import SensorLog.Proofs.Packet.ByteQueue

/-!
# The errors of a step

Others may use the queue of a reader between any two of its steps. A step still never asks the queue for what it
does not hold, since every use leaves the reader sound (`Sound.used`), so it fails for two reasons only: a
length byte of zero, or a payload whose fields the registry does not know (`new_used_next_errors`).
-/

namespace SensorLog

theorem SchemaError.isMismatch_iff {cause : SchemaError} : cause.isMismatch = true ↔
    (∃ name, cause = .unknownField name) ∨ ∃ name, cause = .unknownColumn name := by
  cases cause <;> simp [isMismatch]

/-- A use of a reader: a packet for it, a step, or a call on its queue past it. -/
inductive ReaderUse
  | write (packet : Bytes)
  | next (order? : Option PacketOrder)
  | queue (c : QueueCall)

namespace FrameReader

variable {r : FrameReader} {codec : RecordCodec} {order? : Option PacketOrder}

/-- The reader after a use. A packet that finds no room changes nothing. -/
def use (codec : RecordCodec) (r : FrameReader) : ReaderUse → FrameReader
  | .write packet =>
    match r.write packet with
    | .ok r' => r'
    | .error _ => r
  | .next order? => (r.next codec order?).reader
  | .queue c => { r with queue := (r.queue.call c).queue }

/-- The reader after uses, first use first. -/
def used (codec : RecordCodec) (r : FrameReader) (uses : List ReaderUse) : FrameReader :=
  uses.foldl (use codec) r

theorem Sound.use (sound : r.Sound) (u : ReaderUse) : (r.use codec u).Sound := by
  cases u with
  | write packet =>
      cases written : r.write packet with
      | ok r' => simpa only [FrameReader.use, written] using sound.write written
      | error e => simpa only [FrameReader.use, written] using sound
  | next order? => exact sound.next codec order?
  | queue c => exact ⟨(sound.queue.call c).1, sound.pending, sound.log⟩

theorem Sound.used (sound : r.Sound) (uses : List ReaderUse) : (r.used codec uses).Sound := by
  induction uses generalizing r with
  | nil => exact sound
  | cons u rest ih => exact ih (sound.use u)

/-! ## What a step can fail for -/

theorem Reading.cause {e : FrameError} {reader : FrameReader}
    (read : r.Reading codec order? (.error e) reader) : e = .zeroLengthFrame ∨ ∃ cause, e = .schema cause := by
  cases read with
  | zero => exact .inl rfl
  | payload begins read =>
      cases read with
      | mismatch cause => exact .inr ⟨cause, rfl⟩

theorem Reading.zeroLength {reader : FrameReader}
    (read : r.Reading codec order? (.error .zeroLengthFrame) reader) (sound : r.Sound) :
    r.pending = none ∧ r.queue.stream.head? = some 0 := by
  cases read with
  | zero queue fresh head =>
      rw [(sound.queue.getByte head).2]
      exact ⟨fresh, rfl⟩
  | payload begins read => cases read

theorem Reading.mismatched {cause : SchemaError} {reader : FrameReader}
    (read : r.Reading codec order? (.error (.schema cause)) reader) :
    cause.isMismatch = true ∧ ∃ size begun, r.Begins size begun ∧ size ≤ begun.queue.size ∧
      codec.decode (begun.queue.peek size order?) = .error cause := by
  cases read with
  | payload begins read =>
      cases read with
      | mismatch _ enough failed final => exact ⟨final, _, _, begins, enough, failed⟩

/-- A payload that is there in full is the bytes of the announced length that come first in the order of reading. -/
theorem isPayload_iff {q : PacketQueue} (sound : q.Sound) {size : Nat} {window : Bytes} :
    (size ≤ q.size ∧ window = q.peek size order?) ↔ window.length = size ∧ window <+: q.bytesIn order? := by
  have length := PacketQueue.length_bytesIn sound order?
  rw [PacketQueue.peek_eq_take, PacketQueue.flatten_sequence, ← length]
  constructor
  · rintro ⟨enough, rfl⟩
    exact ⟨List.length_take_of_le enough, List.take_prefix _ _⟩
  · rintro ⟨rfl, first⟩
    exact ⟨first.length_le, List.prefix_iff_eq_take.1 first⟩

/-- A step fails on a length byte of zero, and it does so whenever the next byte is one. -/
theorem Sound.zeroLengthFrame_iff (sound : r.Sound) :
    (r.next codec order?).outcome = .error .zeroLengthFrame ↔
      r.pending = none ∧ r.queue.stream.head? = some 0 := by
  constructor
  · intro failed
    have read := next_reading sound codec order?
    rw [failed] at read
    exact read.zeroLength sound
  · rintro ⟨fresh, first⟩
    obtain ⟨rest, stream⟩ := List.head?_eq_some_iff.1 first
    obtain ⟨queue, head, -⟩ := PacketQueue.getByte_of_stream sound.queue stream
    have waiting : ¬r.queue.isEmpty = true := by
      rw [PacketQueue.isEmpty_iff sound.queue, stream]
      exact List.cons_ne_nil _ _
    simp only [FrameReader.next, fresh, if_neg waiting, head, if_true]

/-- A step fails on a payload that is there in full and has fields that the registry does not know. -/
theorem Sound.schema_iff (sound : r.Sound) {cause : SchemaError} :
    (r.next codec order?).outcome = .error (.schema cause) ↔
      cause.isMismatch = true ∧ ∃ size begun, r.Begins size begun ∧ size ≤ begun.queue.size ∧
        codec.decode (begun.queue.peek size order?) = .error cause := by
  constructor
  · intro failed
    have read := next_reading sound codec order?
    rw [failed] at read
    exact read.mismatched
  · rintro ⟨final, size, begun, begins, enough, failed⟩
    exact (begins.next_eq sound.queue (.mismatch cause enough failed final)).1

/-- Whatever was done to a fresh reader and to its queue before, a step fails with one of two errors: a length
    byte of zero, exactly when no length is held back and the first waiting byte is zero, or the codec's own
    error that a field or a column is unknown, exactly when the codec gives it for a payload of the announced
    length that is there in full. So a step never runs out of bytes and never meets an order that is none. -/
theorem new_used_next_errors (codec : RecordCodec) (capacity limit : Nat) (uses : List ReaderUse)
    (order? : Option PacketOrder) :
    let r := (FrameReader.new capacity limit).used codec uses
    let outcome := (r.next codec order?).outcome
    (∀ e, outcome = .error e → e = .zeroLengthFrame ∨ ∃ cause, e = .schema cause) ∧
      (outcome = .error .zeroLengthFrame ↔
        r.pending = none ∧ r.queue.packets.flatten.head? = some 0) ∧
      ∀ cause, outcome = .error (.schema cause) ↔
        ((∃ name, cause = .unknownField name) ∨ ∃ name, cause = .unknownColumn name) ∧
          ∃ size begun window, r.Begins size begun ∧ window.length = size ∧
            window <+: begun.queue.bytesIn order? ∧ codec.decode window = .error cause := by
  intro r outcome
  have sound : r.Sound := (Sound.new capacity limit).used uses
  refine ⟨?_, sound.zeroLengthFrame_iff, ?_⟩
  · intro e failed
    have read : r.Reading codec order? outcome _ := next_reading sound codec order?
    rw [failed] at read
    exact read.cause
  · intro cause
    rw [sound.schema_iff, SchemaError.isMismatch_iff]
    refine and_congr_right fun _ => ?_
    constructor
    · rintro ⟨size, begun, begins, enough, failed⟩
      obtain ⟨length, first⟩ := (isPayload_iff (begins.sound sound).queue).1 ⟨enough, rfl⟩
      exact ⟨size, begun, _, begins, length, first, failed⟩
    · rintro ⟨size, begun, window, begins, length, first, failed⟩
      obtain ⟨enough, rfl⟩ := (isPayload_iff (begins.sound sound).queue).2 ⟨length, first⟩
      exact ⟨size, begun, begins, enough, failed⟩

end FrameReader

end SensorLog
