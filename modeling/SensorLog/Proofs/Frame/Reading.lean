import Mathlib
import SensorLog.Frame.Reader
import SensorLog.Proofs.Packet.Stream

/-!
# What one step of reading can do

`next_reading` lists the outcomes of a step with the reader that each leaves behind, guards
included; every property of the reader is a case analysis on it. `unread` is the reader's view of
the byte stream: the length byte that is held back, then the waiting bytes. `Reachable` covers every
way in which a reader and its queue can be used.
-/

namespace SensorLog.FrameReader

variable {r : FrameReader} {codec : RecordCodec} {order? : Option PacketOrder}

/-- What every operation keeps: a sound queue, a length that one byte can announce, a log within its
    limit. -/
structure Sound (r : FrameReader) : Prop where
  queue : r.queue.Sound
  pending : ∀ size, r.pending = some size → 0 < size ∧ size ≤ 255
  log : r.log.attempts.length ≤ r.log.limit

/-- The bytes that no decoded frame has used up yet. -/
def unread (r : FrameReader) : Bytes :=
  (r.pending.map UInt8.ofNat).toList ++ r.queue.stream

/-- Reading a payload of known length: the outcome and the reader after it. -/
inductive PayloadReading (r : FrameReader) (codec : RecordCodec) (order? : Option PacketOrder)
    (size : Nat) : Except FrameError Outcome → FrameReader → Prop
  | short (few : r.queue.size < size) : PayloadReading r codec order? size (.ok .needMore) r
  | frame (record : Record) (enough : size ≤ r.queue.size)
      (decoded : codec.decode (r.queue.peek size order?) = .ok record)
      (more : record.isEndOfLog = false) :
      PayloadReading r codec order? size (.ok (.frame record))
        (r.accept (r.queue.consume size order?) size (r.queue.peek size order?))
  | endOfLog (record : Record) (enough : size ≤ r.queue.size)
      (decoded : codec.decode (r.queue.peek size order?) = .ok record)
      (last : record.isEndOfLog = true) :
      PayloadReading r codec order? size (.ok .endOfLog)
        (r.accept (r.queue.consume size order?) size (r.queue.peek size order?))
  | mismatch (cause : SchemaError) (enough : size ≤ r.queue.size)
      (failed : codec.decode (r.queue.peek size order?) = .error cause)
      (final : cause.isMismatch = true) :
      PayloadReading r codec order? size (.error (.schema cause))
        (r.remember size (r.queue.peek size order?) (some cause))
  | corrupt (cause : SchemaError) (enough : size ≤ r.queue.size)
      (failed : codec.decode (r.queue.peek size order?) = .error cause)
      (mendable : cause.isMismatch = false) :
      PayloadReading r codec order? size (.ok (.corrupt cause))
        (r.remember size (r.queue.peek size order?) (some cause))

/-- The reader with the length byte of its next frame taken. -/
inductive Begins (r : FrameReader) : Nat → FrameReader → Prop
  | awaited (size : Nat) (held : r.pending = some size) : Begins r size r
  | taken (b : UInt8) (queue : PacketQueue) (fresh : r.pending = none) (nonzero : b ≠ 0)
      (head : r.queue.getByte = .ok (b, queue)) :
      Begins r b.toNat { r with queue, pending := some b.toNat }

/-- Reading a frame: the outcome and the reader after it. -/
inductive Reading (r : FrameReader) (codec : RecordCodec) (order? : Option PacketOrder) :
    Except FrameError Outcome → FrameReader → Prop
  | idle (fresh : r.pending = none) (empty : r.queue.stream = []) :
      Reading r codec order? (.ok .needMore) r
  | zero (queue : PacketQueue) (fresh : r.pending = none) (head : r.queue.getByte = .ok (0, queue)) :
      Reading r codec order? (.error .zeroLengthFrame) { r with queue }
  | payload {size : Nat} {begun reader : FrameReader} {outcome : Except FrameError Outcome}
      (begins : r.Begins size begun) (read : begun.PayloadReading codec order? size outcome reader) :
      Reading r codec order? outcome reader

/-! ## The steps are these -/

/-- A window that is long enough can be consumed, so the count never stops a decoded frame. -/
theorem readPayload_reading (sound : r.queue.Sound) (codec : RecordCodec)
    (order? : Option PacketOrder) (size : Nat) :
    r.PayloadReading codec order? size (r.readPayload codec order? size).outcome
      (r.readPayload codec order? size).reader := by
  have length := PacketQueue.length_peek sound size order?
  unfold readPayload
  dsimp only
  split
  · exact .short (by omega)
  · rename_i full
    have enough : size ≤ r.queue.size := by omega
    have seek : r.queue.seek size order? = .ok (r.queue.consume size order?) :=
      PacketQueue.seek_eq_ok_iff.2 ⟨enough, rfl⟩
    cases result : codec.decode (r.queue.peek size order?) with
    | ok record =>
        simp only [seek]
        cases last : record.isEndOfLog with
        | false => exact .frame record enough result last
        | true => exact .endOfLog record enough result last
    | error cause =>
        dsimp only
        cases final : cause.isMismatch with
        | false => exact .corrupt cause enough result final
        | true => exact .mismatch cause enough result final

theorem next_reading (sound : r.Sound) (codec : RecordCodec) (order? : Option PacketOrder) :
    r.Reading codec order? (r.next codec order?).outcome (r.next codec order?).reader := by
  unfold next
  split
  · rename_i size held
    exact .payload (.awaited size held) (readPayload_reading sound.queue _ _ _)
  · rename_i fresh
    split
    · rename_i empty
      exact .idle fresh ((PacketQueue.isEmpty_iff sound.queue).1 empty)
    · rename_i waiting
      cases stream : r.queue.stream with
      | nil => exact absurd ((PacketQueue.isEmpty_iff sound.queue).2 stream) waiting
      | cons b rest =>
          obtain ⟨queue, head, soundQueue, -, -⟩ := PacketQueue.getByte_of_stream sound.queue stream
          simp only [head]
          split
          · rename_i zero
            subst zero
            exact .zero queue fresh head
          · rename_i nonzero
            exact .payload (.taken b queue fresh nonzero head) (readPayload_reading soundQueue _ _ _)

/-- The codec is a function, so a payload reads in one way only. -/
theorem PayloadReading.unique {size : Nat} {outcome outcome' : Except FrameError Outcome}
    {reader reader' : FrameReader} (one : r.PayloadReading codec order? size outcome reader)
    (other : r.PayloadReading codec order? size outcome' reader') :
    outcome = outcome' ∧ reader = reader' := by
  cases one <;> cases other <;> grind

/-- A step is known from the payload that it begins to read. -/
theorem Begins.next_eq {size : Nat} {begun reader : FrameReader} {outcome : Except FrameError Outcome}
    (begins : r.Begins size begun) (sound : r.queue.Sound)
    (read : begun.PayloadReading codec order? size outcome reader) :
    (r.next codec order?).outcome = outcome ∧ (r.next codec order?).reader = reader := by
  have started : begun.queue.Sound ∧ r.next codec order? = begun.readPayload codec order? size := by
    cases begins with
    | awaited _ held =>
        constructor
        · exact sound
        · simp only [next, held]
    | taken b queue fresh nonzero head =>
        obtain ⟨queued, stream⟩ := sound.getByte head
        have waiting : ¬ r.queue.isEmpty = true := by
          rw [PacketQueue.isEmpty_iff sound, stream]
          exact List.cons_ne_nil _ _
        constructor
        · exact queued
        · simp only [next, fresh, if_neg waiting, head, if_neg nonzero]
  obtain ⟨queued, started⟩ := started
  rw [started]
  exact (readPayload_reading queued codec order? size).unique read

/-! ## What taking a length byte leaves -/

theorem Begins.pending_eq {size : Nat} {begun : FrameReader} (begins : r.Begins size begun) :
    begun.pending = some size := by
  cases begins with
  | awaited _ held => exact held
  | taken => rfl

theorem Begins.frames_eq {size : Nat} {begun : FrameReader} (begins : r.Begins size begun) :
    begun.frames = r.frames := by
  cases begins <;> rfl

theorem Begins.log_eq {size : Nat} {begun : FrameReader} (begins : r.Begins size begun) :
    begun.log = r.log := by
  cases begins <;> rfl

theorem Begins.sound {size : Nat} {begun : FrameReader} (begins : r.Begins size begun)
    (sound : r.Sound) : begun.Sound := by
  cases begins with
  | awaited => exact sound
  | taken b queue fresh nonzero head =>
      obtain ⟨soundQueue, -⟩ := sound.queue.getByte head
      refine ⟨soundQueue, ?_, sound.log⟩
      intro size held
      cases held
      have positive : b.toNat ≠ 0 := fun zero => nonzero (UInt8.toNat_inj.1 zero)
      have := b.toNat_lt
      omega

theorem Begins.bounds {size : Nat} {begun : FrameReader} (begins : r.Begins size begun)
    (sound : r.Sound) : 0 < size ∧ size ≤ 255 :=
  (begins.sound sound).pending size begins.pending_eq

theorem unread_of_pending {size : Nat} (held : r.pending = some size) :
    r.unread = UInt8.ofNat size :: r.queue.stream := by
  simp [unread, held]

theorem unread_of_fresh (fresh : r.pending = none) : r.unread = r.queue.stream := by
  simp [unread, fresh]

/-- Each packet that waits holds an unread byte. -/
theorem Sound.length_packets_le (sound : r.Sound) : r.queue.packets.length ≤ r.unread.length := by
  have waiting := sound.queue.length_packets_le
  rw [unread, List.length_append]
  omega

theorem Begins.unread_eq {size : Nat} {begun : FrameReader} (begins : r.Begins size begun)
    (sound : r.Sound) : r.unread = UInt8.ofNat size :: begun.queue.stream := by
  cases begins with
  | awaited _ held => exact unread_of_pending held
  | taken b queue fresh _ head =>
      rw [unread_of_fresh fresh, (sound.queue.getByte head).2, UInt8.ofNat_toNat]

/-! ## Every operation keeps the reader sound -/

theorem Sound.new (capacity limit : Nat) : (FrameReader.new capacity limit).Sound :=
  ⟨.empty capacity, by simp [FrameReader.new], Nat.zero_le _⟩

/-- A packet goes to the end of the queue, unless it overfills it. -/
theorem write_cases (sound : r.Sound) (packet : Bytes) :
    (∃ queue, r.write packet = .ok { r with queue } ∧ queue.Sound ∧
        queue.stream = r.queue.stream ++ packet ∧ queue.capacity = r.queue.capacity) ∨
      (r.write packet = .error (.bufferFull r.queue.capacity) ∧ packet ≠ [] ∧
        r.queue.capacity = r.queue.packets.length) := by
  rcases PacketQueue.write_cases sound.queue packet with
    ⟨queue, accepted, soundQueue, stream, capacity⟩ | ⟨full, some, exact⟩
  · exact .inl ⟨queue, by simp only [FrameReader.write, accepted], soundQueue, stream, capacity⟩
  · exact .inr ⟨by simp only [FrameReader.write, full], some, exact⟩

theorem Sound.write {r' : FrameReader} {packet : Bytes} (sound : r.Sound)
    (written : r.write packet = .ok r') : r'.Sound := by
  rcases write_cases sound packet with ⟨queue, accepted, soundQueue, -, -⟩ | ⟨full, -, -⟩
  · rw [accepted] at written
    cases written
    exact ⟨soundQueue, sound.pending, sound.log⟩
  · rw [full] at written
    cases written

theorem Sound.remember (sound : r.Sound) (size : Nat) (raw : Bytes) (error? : Option SchemaError) :
    (r.remember size raw error?).Sound :=
  ⟨sound.queue, sound.pending, AttemptLog.length_record_le sound.log _⟩

theorem Sound.accept (sound : r.Sound) {queue : PacketQueue} (consumed : queue.Sound) (size : Nat)
    (raw : Bytes) : (r.accept queue size raw).Sound :=
  ⟨consumed, by simp [FrameReader.accept], AttemptLog.length_record_le sound.log _⟩

theorem PayloadReading.sound {size : Nat} {outcome : Except FrameError Outcome} {reader : FrameReader}
    (read : r.PayloadReading codec order? size outcome reader) (sound : r.Sound) : reader.Sound := by
  cases read with
  | short => exact sound
  | frame => exact sound.accept (sound.queue.consume _ _) _ _
  | endOfLog => exact sound.accept (sound.queue.consume _ _) _ _
  | mismatch => exact sound.remember _ _ _
  | corrupt => exact sound.remember _ _ _

theorem Reading.sound {outcome : Except FrameError Outcome} {reader : FrameReader}
    (read : r.Reading codec order? outcome reader) (sound : r.Sound) : reader.Sound := by
  cases read with
  | idle => exact sound
  | zero queue fresh head => exact ⟨(sound.queue.getByte head).1, by simp [fresh], sound.log⟩
  | payload begins read => exact read.sound (begins.sound sound)

/-- A frame is what the codec made of some payload. -/
theorem Reading.decoded {record : Record} {reader : FrameReader}
    (read : r.Reading codec order? (.ok (.frame record)) reader) :
    ∃ payload, codec.decode payload = .ok record := by
  cases read with
  | payload begins read =>
      cases read with
      | frame _ enough decoded more => exact ⟨_, decoded⟩

theorem Sound.next (sound : r.Sound) (codec : RecordCodec) (order? : Option PacketOrder) :
    (r.next codec order?).reader.Sound :=
  (next_reading sound codec order?).sound sound

theorem PayloadReading.capacity_eq {size : Nat} {outcome : Except FrameError Outcome}
    {reader : FrameReader} (read : r.PayloadReading codec order? size outcome reader) :
    reader.queue.capacity = r.queue.capacity := by
  cases read with
  | short => rfl
  | frame => exact PacketQueue.capacity_consume _ _ _
  | endOfLog => exact PacketQueue.capacity_consume _ _ _
  | mismatch => rfl
  | corrupt => rfl

theorem Reading.capacity_eq {outcome : Except FrameError Outcome} {reader : FrameReader}
    (read : r.Reading codec order? outcome reader) : reader.queue.capacity = r.queue.capacity := by
  cases read with
  | idle => rfl
  | zero queue fresh head => exact PacketQueue.capacity_getByte head
  | payload begins read =>
      rw [read.capacity_eq]
      cases begins with
      | awaited => rfl
      | taken b queue fresh nonzero head => exact PacketQueue.capacity_getByte head

/-- The readers that any sequence of operations leads to, on the reader or directly on its queue. An
    operation that fails changes nothing and needs no rule. -/
inductive Reachable (codec : RecordCodec) : FrameReader → Prop
  | new (capacity limit : Nat) : Reachable codec (.new capacity limit)
  | write {r r' : FrameReader} {packet : Bytes} (reached : Reachable codec r)
      (written : r.write packet = .ok r') : Reachable codec r'
  | next {r : FrameReader} (order? : Option PacketOrder) (reached : Reachable codec r) :
      Reachable codec (r.next codec order?).reader
  | getByte {r : FrameReader} {b : UInt8} {queue : PacketQueue} (reached : Reachable codec r)
      (taken : r.queue.getByte = .ok (b, queue)) : Reachable codec { r with queue }
  | seek {r : FrameReader} {n : Nat} {order? : Option PacketOrder} {queue : PacketQueue}
      (reached : Reachable codec r) (done : r.queue.seek n order? = .ok queue) :
      Reachable codec { r with queue }
  | dropPacket {r : FrameReader} {index : Nat} {packet : Bytes} {queue : PacketQueue}
      (reached : Reachable codec r) (dropped : r.queue.dropPacket index = some (packet, queue)) :
      Reachable codec { r with queue }
  | clear {r : FrameReader} (reached : Reachable codec r) :
      Reachable codec { r with queue := r.queue.clear }

theorem Reachable.sound (reached : Reachable codec r) : r.Sound := by
  induction reached with
  | new capacity limit => exact .new capacity limit
  | write _ written ih => exact ih.write written
  | next order? _ ih => exact ih.next codec order?
  | getByte _ taken ih => exact ⟨(ih.queue.getByte taken).1, ih.pending, ih.log⟩
  | seek _ done ih => exact ⟨ih.queue.seek done, ih.pending, ih.log⟩
  | dropPacket _ dropped ih => exact ⟨ih.queue.dropPacket dropped, ih.pending, ih.log⟩
  | clear _ ih => exact ⟨.clear _, ih.pending, ih.log⟩

end SensorLog.FrameReader
