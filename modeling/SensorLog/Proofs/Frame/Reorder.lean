import SensorLog.Proofs.Frame.Reading
import SensorLog.Schema.Builtin

/-!
# Reading under another packet order

A payload read under a packet order is the payload that arrival order would give had the packets
been moved into that order before (`next_some_eq_next_rearranged`). The packets are moved for good
only when the payload decodes; any other outcome leaves them as they came.
-/

namespace SensorLog.FrameReader

variable {r : FrameReader} {codec : RecordCodec}

/-- The reader whose waiting packets were moved into the places that an order gives them. -/
def rearranged (r : FrameReader) (o : PacketOrder) : FrameReader :=
  { r with queue := r.queue.rearrange o }

/-- The log is as before or one attempt longer. -/
def GrownLog (before after : AttemptLog) : Prop :=
  after = before ∨ ∃ attempt, after = before.record attempt

/-- How a step under an order relates to the arrival-order step from the rearranged packets. A
    decoded payload leaves the two readers equal. Otherwise the packets stay as they came, the
    payload is still awaited, and only the log may have grown. No other error comes up. -/
def CommitsOnSuccess (before ordered plain : FrameReader) : Except FrameError Outcome → Prop
  | .ok (.frame _) | .ok .endOfLog => ordered = plain ∧ ordered.pending = none
  | .ok .needMore | .ok (.corrupt _) | .error (.schema _) =>
    ordered = { before with log := ordered.log } ∧ GrownLog before.log ordered.log
  | .error _ => False

theorem consume_rearrange (q : PacketQueue) (o : PacketOrder) (size : Nat) :
    (q.rearrange o).consume size none = q.consume size (some o) := by
  simp only [PacketQueue.consume, PacketQueue.commit_some]
  rfl

/-- The window, what is left behind it and the log entry are the same in both readings; only the
    packets of a payload that stays differ in place. -/
theorem PayloadReading.rearranged {o : PacketOrder} {size : Nat} {outcome : Except FrameError Outcome}
    {reader : FrameReader} (read : r.PayloadReading codec (some o) size outcome reader) :
    ∃ plain, (r.rearranged o).PayloadReading codec none size outcome plain ∧
      CommitsOnSuccess r reader plain outcome := by
  cases read with
  | short few => exact ⟨_, .short few, rfl, .inl rfl⟩
  | frame record enough decoded more =>
      refine ⟨_, .frame record enough decoded more, ?_, rfl⟩
      simp only [FrameReader.rearranged, consume_rearrange]
      rfl
  | endOfLog record enough decoded last =>
      refine ⟨_, .endOfLog record enough decoded last, ?_, rfl⟩
      simp only [FrameReader.rearranged, consume_rearrange]
      rfl
  | mismatch cause enough failed final =>
      exact ⟨_, .mismatch cause enough failed final, rfl, .inr ⟨_, rfl⟩⟩
  | corrupt cause enough failed mendable =>
      exact ⟨_, .corrupt cause enough failed mendable, rfl, .inr ⟨_, rfl⟩⟩

/-- Reading an awaited payload under an order is reading it in arrival order from the packets so
    arranged, and the arrangement is kept only if the payload decodes. -/
theorem next_some_eq_next_rearranged (reached : Reachable codec r) {size : Nat}
    (held : r.pending = some size) (o : PacketOrder) :
    let ordered := r.next codec (some o)
    let plain := (r.rearranged o).next codec none
    ordered.outcome = plain.outcome ∧
      CommitsOnSuccess r ordered.reader plain.reader ordered.outcome := by
  have sound := reached.sound
  have orderedStep : r.next codec (some o) = r.readPayload codec (some o) size := by
    simp only [next, held]
  have plainStep : (r.rearranged o).next codec none = (r.rearranged o).readPayload codec none size := by
    simp only [next, rearranged, held]
  have orderedRead := readPayload_reading sound.queue codec (some o) size
  have plainRead := readPayload_reading (r := r.rearranged o) (sound.queue.rearrange o) codec none size
  obtain ⟨reader, expected, relation⟩ := orderedRead.rearranged
  obtain ⟨sameOutcome, sameReader⟩ := expected.unique plainRead
  subst sameReader
  dsimp only
  rw [orderedStep, plainStep]
  exact ⟨sameOutcome, relation⟩

/-- A reader that awaits a frame of four bytes. -/
def awaiting (packets : List Bytes) : FrameReader :=
  { queue := { capacity := 128, packets, size := packets.flatten.length }
    pending := some 4, log := { limit := 32 } }

/-- The last two packets have changed places on their way. -/
theorem reachable_awaiting : Reachable Registry.builtin.codec (awaiting [[8], [16, 100], [1]]) := by
  have first : (FrameReader.new 128 32).write [4, 8]
      = .ok { queue := { capacity := 128, packets := [[4, 8]], size := 2 }, log := { limit := 32 } } := rfl
  -- The first packet is too short for a payload, so this step takes the length byte and no more.
  have begun : Reachable Registry.builtin.codec (awaiting [[8]]) :=
    .next none (.write (.new 128 32) first)
  have second : (awaiting [[8]]).write [16, 100] = .ok (awaiting [[8], [16, 100]]) := rfl
  have third : (awaiting [[8], [16, 100]]).write [1] = .ok (awaiting [[8], [16, 100], [1]]) := rfl
  exact .write (.write begun second) third

/-- Reading the second packet last gives the record and leaves what arrival order would have left. -/
theorem next_awaiting_swapped :
    let r := awaiting [[8], [16, 100], [1]]
    let swapped : PacketOrder := ⟨[0, 2, 1], by decide⟩
    r.pending = some 4 ∧
      (r.next Registry.builtin.codec (some swapped)).outcome
        = .ok (.frame ⟨[("TS", 1), ("p", 100)]⟩) ∧
      (r.next Registry.builtin.codec (some swapped)).reader
        = ((r.rearranged swapped).next Registry.builtin.codec none).reader := by
  intro r swapped
  have outcome : ((awaiting [[8], [16, 100], [1]]).next Registry.builtin.codec
      (some ⟨[0, 2, 1], by decide⟩)).outcome = .ok (.frame ⟨[("TS", 1), ("p", 100)]⟩) := by cbv
  obtain ⟨-, relation⟩ := next_some_eq_next_rearranged reachable_awaiting rfl swapped
  rw [outcome] at relation
  exact ⟨rfl, outcome, relation.1⟩

end SensorLog.FrameReader
