import SensorLog.Proofs.Frame.Reorder
import SensorLog.Proofs.Transfer.Mirror
import SensorLog.Proofs.Transfer.SinkMap
import SensorLog.Proofs.Transfer.Tries
import SensorLog.Schema.Builtin

/-!
# Two packets that changed places

A payload is sent in three packets, and the last two of them change places on their way. Under the
default plan the first retry reads it as it was sent (`swap_undone`). The corrupt attempt comes with the
second packet to arrive or with the third, whichever completes the payload, and the retry with the
packet after that. In between the transfer is in states of one shape, `holding`: the length byte is
taken, the packets stand as they came, and some failures are counted. Each packet is one step from such
a state to the next.
-/

namespace SensorLog

namespace PacketOrder

/-- The third packet is read before the second. -/
def crossed : PacketOrder :=
  (identity 3).swapped 1 2

/-- Packets behind the third stay where they are. -/
theorem arrange_crossed {α : Type} (x y z : α) (later : List α) :
    crossed.arrange (x :: y :: z :: later) = x :: z :: y :: later := by
  have indices : crossed.indices = [0, 2, 1] := by decide
  have count : (x :: y :: z :: later).length = later.length + 3 := rfl
  have known : min 3 (later.length + 3) = 3 := by omega
  have behind : (List.range' 3 later.length).filterMap (fun i => (x :: y :: z :: later)[i]?) = later := by
    have shifted : ((fun i => (x :: y :: z :: later)[i]?) ∘ fun i => 3 + i) = fun i => later[i]? := by
      funext i
      simp only [Function.comp_apply, Nat.add_comm 3 i, List.getElem?_cons_succ]
    rw [List.range'_eq_map_range, List.filterMap_map, shifted, filterMap_getElem?_range]
  simp only [arrange, resolve, indices, count, List.length_cons, List.length_nil, known]
  simp [behind]

end PacketOrder

namespace Transfer

variable {σ : Type} {t : Transfer σ}

/-! ## Packets that are only waited with -/

/-- Feeding packets is answered with "more" each time, leads to these tries, and leaves this transfer. -/
structure Waits [RowSink σ] (t : Transfer σ) (packets : List Bytes) (tries : List Try) (last : Transfer σ) :
    Prop where
  results : ∀ result ∈ (t.feeds packets).results, result = .ok .more
  tries : (t.history packets).flatMap (·.tries) = tries
  last : (t.feeds packets).transfer = last

theorem Waits.nil [RowSink σ] : Waits t [] [] t :=
  ⟨nofun, rfl, rfl⟩

theorem Waits.cons [RowSink σ] {u last : Transfer σ} {packet : Bytes} {rest : List Bytes}
    {tries later : List Try} (first : (t.feed packet).result = .ok .more ∧ t.triesOf packet = tries ∧
      (t.feed packet).transfer = u) (onward : Waits u rest later last) :
    Waits t (packet :: rest) (tries ++ later) last := by
  obtain ⟨more, tried, rfl⟩ := first
  refine ⟨?_, ?_, ?_⟩
  · intro result member
    rw [feeds_cons] at member
    rcases List.mem_cons.1 member with rfl | behind
    · exact more
    · exact onward.results result behind
  · rw [history, List.flatMap_cons, onward.tries, tried]
  · rw [feeds_cons]
    exact onward.last

/-! ## States that hold a payload back -/

/-- The transfer when it has taken the length of a payload and counted failures on it. -/
def holding (t : Transfer σ) (size : Nat) (packets : List Bytes) (log : AttemptLog) (failures : Nat) :
    Transfer σ :=
  { t with
    reader := { t.reader with
      queue := { t.reader.queue with packets, size := packets.flatten.length }
      pending := some size, log }
    retries := { t.retries with failures } }

/-- Packets that can wait in a transfer. -/
structure Fits (t : Transfer σ) (packets : List Bytes) : Prop where
  inhabited : ∀ packet ∈ packets, packet ≠ []
  room : packets.length ≤ t.reader.queue.capacity

variable {size failures : Nat} {packets : List Bytes} {log : AttemptLog}

theorem Fits.nil : t.Fits [] :=
  ⟨nofun, Nat.zero_le _⟩

theorem Fits.concat {packet : Bytes} (fits : t.Fits packets) (some : packet ≠ [])
    (room : packets.length < t.reader.queue.capacity) : t.Fits (packets ++ [packet]) := by
  constructor
  · intro other member
    rcases List.mem_append.1 member with early | last
    · exact fits.inhabited other early
    · rwa [List.mem_singleton.1 last]
  · rw [List.length_append]
    exact room

theorem Fits.sound (fits : t.Fits packets) : (t.holding size packets log failures).reader.queue.Sound :=
  ⟨rfl, fits.inhabited, fits.room⟩

/-- The step of a holding transfer is a reading of its payload under the order that is due. -/
theorem Fits.step_eq {outcome : Except FrameError Outcome} {reader : FrameReader} (fits : t.Fits packets)
    (read : (t.holding size packets log failures).reader.PayloadReading t.codec
      (t.retries.plan.scheduled failures) size outcome reader) :
    (t.holding size packets log failures).step.outcome = outcome ∧
      (t.holding size packets log failures).step.reader = reader := by
  have due : (t.holding size packets log failures).retries.order? = t.retries.plan.scheduled failures :=
    Retries.order?_eq _
  rw [← due] at read
  exact FrameReader.Begins.next_eq (.awaited size rfl) fits.sound read

variable [RowSink σ]

/-- A packet that has room goes behind the others, and the loop goes on from there. -/
theorem feed_holding (packets : List Bytes) (packet : Bytes) (running : t.phase = .running)
    (fits : t.Fits (packets ++ [packet])) :
    (t.holding size packets log failures).feed packet
        = (t.holding size (packets ++ [packet]) log failures).advance ∧
      (t.holding size packets log failures).triesOf packet
        = (t.holding size (packets ++ [packet]) log failures).tries := by
  have running' : (t.holding size packets log failures).phase = .running := running
  have some : packet ≠ [] := fits.inhabited packet List.mem_concat_self
  have room : packets.length < t.reader.queue.capacity := by
    have space := fits.room
    rw [List.length_append, List.length_singleton] at space
    omega
  have count : packets.flatten.length + packet.length = (packets ++ [packet]).flatten.length := by
    rw [List.flatten_append, List.flatten_singleton, List.length_append]
  have queued : (t.holding size packets log failures).reader.queue.write packet
      = .ok (t.holding size (packets ++ [packet]) log failures).reader.queue := by
    rw [PacketQueue.write_of_room some room]
    simp only [holding, count]
  have accepted : (t.holding size packets log failures).reader.write packet
      = .ok (t.holding size (packets ++ [packet]) log failures).reader := by
    rw [FrameReader.write, queued]
    rfl
  constructor
  · rw [feed_of_running running', accepted]
    rfl
  · exact triesOf_of_write running' accepted

/-- An empty packet changes nothing before the loop goes on. -/
theorem feed_holding_nil (running : t.phase = .running) :
    (t.holding size packets log failures).feed [] = (t.holding size packets log failures).advance ∧
      (t.holding size packets log failures).triesOf [] = (t.holding size packets log failures).tries := by
  have running' : (t.holding size packets log failures).phase = .running := running
  exact ⟨feed_nil running', triesOf_of_write running' rfl⟩

/-- A packet that does not complete the payload joins the others. -/
theorem feed_short (packets : List Bytes) (packet : Bytes) (log : AttemptLog) (failures : Nat)
    (running : t.phase = .running) (below : t.limitReached = false)
    (fits : t.Fits (packets ++ [packet])) (few : (packets ++ [packet]).flatten.length < size) :
    ((t.holding size packets log failures).feed packet).result = .ok .more ∧
      (t.holding size packets log failures).triesOf packet = [] ∧
      ((t.holding size packets log failures).feed packet).transfer
        = t.holding size (packets ++ [packet]) log failures := by
  let w := t.holding size (packets ++ [packet]) log failures
  have step : w.step.outcome = .ok .needMore ∧ w.step.reader = w.reader := fits.step_eq (.short few)
  obtain ⟨starved, reader⟩ := step
  have below' : w.limitReached = false := below
  obtain ⟨events, turn⟩ := turn_of_starved below' starved
  have none : w.tried? = .none := tried?_of_idle (by rw [starved]; rfl)
  have left : w.stepped = w := by rw [stepped, reader]
  obtain ⟨fed, tried⟩ := feed_holding packets packet running fits
  rw [fed, tried]
  show w.advance.result = _ ∧ w.tries = [] ∧ w.advance.transfer = w
  rw [advance_of_stop turn, tries_of_stop turn, none]
  exact ⟨rfl, rfl, left⟩

/-- A packet that completes the payload brings the first attempt, in arrival order, and this one fails. -/
theorem feed_corrupt {cause : SchemaError} (packets : List Bytes) (packet : Bytes) (log : AttemptLog)
    (running : t.phase = .running) (below : t.limitReached = false) (plan : t.retries.plan = .default)
    (fits : t.Fits (packets ++ [packet])) (enough : size ≤ (packets ++ [packet]).flatten.length)
    (failed : t.codec.decode ((packets ++ [packet]).flatten.take size) = .error cause)
    (mendable : cause.isMismatch = false) :
    ∃ log', ((t.holding size packets log 0).feed packet).result = .ok .more ∧
      (t.holding size packets log 0).triesOf packet = [⟨t.reader.frames, none, .corrupt cause, 1⟩] ∧
      ((t.holding size packets log 0).feed packet).transfer
        = t.holding size (packets ++ [packet]) log' 1 := by
  let w := t.holding size (packets ++ [packet]) log 0
  have window : w.reader.queue.peek size none = (packets ++ [packet]).flatten.take size :=
    PacketQueue.peek_none _ _
  have failed' : t.codec.decode (w.reader.queue.peek size none) = .error cause := by
    rw [window]
    exact failed
  have step : w.step.outcome = .ok (.corrupt cause) ∧
      w.step.reader = w.reader.remember size (w.reader.queue.peek size none) (some cause) :=
    fits.step_eq (.corrupt cause enough failed' mendable)
  obtain ⟨corrupt, reader⟩ := step
  have below' : w.limitReached = false := below
  have within : w.retries.failures < w.retries.plan.orders.length := by
    show 0 < t.retries.plan.orders.length
    rw [plan]
    decide
  obtain ⟨events, turn⟩ := turn_of_corrupt below' corrupt within
  have left : w.failedOnce = t.holding size (packets ++ [packet]) w.step.reader.log 1 := by
    rw [failedOnce, stepped, reader]
    rfl
  have attempt : w.tried? = some ⟨t.reader.frames, none, .corrupt cause, 1⟩ := by
    rw [tried?_of_ran below' (by rw [corrupt]; rfl), turn]
    rfl
  obtain ⟨fed, tried⟩ := feed_holding packets packet running fits
  refine ⟨w.step.reader.log, ?_⟩
  rw [fed, tried]
  show w.advance.result = _ ∧ w.tries = _ ∧ w.advance.transfer = _
  rw [advance_of_stop turn, tries_of_stop turn, attempt]
  exact ⟨rfl, rfl, left⟩

/-- A payload is found at the first retry by feeding a packet: the record completes the transfer, or its
    row is written and reading goes on with the given bytes. -/
structure Recovers (t : Transfer σ) (packet : Bytes) (record : Record) (rest : Bytes) : Prop where
  retried : (t.triesOf packet).head? = some ⟨t.reader.frames, some .crossed, .decoded, 0⟩
  ended : record.isEndOfLog = true →
    (t.feed packet).result = .ok (.complete t.entries) ∧ (t.feed packet).transfer.phase = .complete ∧
      (t.feed packet).transfer.sink = RowSink.after t.sink [.flush]
  onward : record.isEndOfLog = false → ∃ (reader : FrameReader) (events : List Event),
    t.feed packet = Reply.after (advance { t with
        reader, retries := t.retries.reset
        sink := RowSink.after t.sink [.write (t.rowOf record (record.cells.map fun cell => .int cell.2))]
        lastColumns? := some record.columns, entries := t.entries + 1 }) events ∧
      reader.pending = none ∧ reader.frames = t.reader.frames + 1 ∧ reader.queue.stream = rest

omit [RowSink σ] in
/-- The pass that finds a record at the first retry, on the packets as that retry arranges them. -/
theorem retry_step (log : AttemptLog) {record : Record} (plan : t.retries.plan = .default)
    (fits : t.Fits packets) (enough : size ≤ packets.flatten.length)
    (decoded : t.codec.decode ((PacketOrder.crossed.arrange packets).flatten.take size) = .ok record) :
    (t.holding size packets log 1).step.outcome
        = (if record.isEndOfLog then .ok .endOfLog else .ok (.frame record)) ∧
      (t.holding size packets log 1).step.reader.pending = none ∧
      (t.holding size packets log 1).step.reader.frames = t.reader.frames + 1 ∧
      (t.holding size packets log 1).step.reader.queue.stream
        = (PacketOrder.crossed.arrange packets).flatten.drop size := by
  let w := t.holding size packets log 1
  have due : t.retries.plan.scheduled 1 = some .crossed := by rw [plan]; rfl
  have window : w.reader.queue.peek size (some .crossed)
      = (PacketOrder.crossed.arrange packets).flatten.take size := PacketQueue.peek_eq_take _ _ _
  have rest : (w.reader.queue.consume size (some .crossed)).stream
      = (PacketOrder.crossed.arrange packets).flatten.drop size := PacketQueue.stream_consume _ _ _
  have decoded' : t.codec.decode (w.reader.queue.peek size (some .crossed)) = .ok record := by
    rw [window]
    exact decoded
  have step : w.step.outcome = (if record.isEndOfLog then .ok .endOfLog else .ok (.frame record)) ∧
      w.step.reader = w.reader.accept (w.reader.queue.consume size (some .crossed)) size
        (w.reader.queue.peek size (some .crossed)) := by
    apply fits.step_eq
    rw [due]
    cases last : record.isEndOfLog with
    | true => exact .endOfLog record enough decoded' last
    | false => exact .frame record enough decoded' last
  obtain ⟨outcome, reader⟩ := step
  refine ⟨outcome, ?_⟩
  show w.step.reader.pending = none ∧ w.step.reader.frames = _ ∧ w.step.reader.queue.stream = _
  rw [reader]
  exact ⟨rfl, rfl, rest⟩

/-- The retry reads the packets behind the first one crosswise. -/
theorem recovers_holding {before : List Bytes} {packet : Bytes} {record : Record} (log : AttemptLog)
    (below : t.limitReached = false) (plan : t.retries.plan = .default) (raw : t.settings.raw = true)
    (faithful : RowSink.NeverFails t.sink) (fits : t.Fits packets) (enough : size ≤ packets.flatten.length)
    (decoded : t.codec.decode ((PacketOrder.crossed.arrange packets).flatten.take size) = .ok record)
    (fed : (t.holding size before log 1).feed packet = (t.holding size packets log 1).advance ∧
      (t.holding size before log 1).triesOf packet = (t.holding size packets log 1).tries) :
    (t.holding size before log 1).Recovers packet record
      ((PacketOrder.crossed.arrange packets).flatten.drop size) := by
  let w := t.holding size packets log 1
  have below' : w.limitReached = false := below
  obtain ⟨advances, tried⟩ := fed
  have step := retry_step log plan fits enough decoded
  change w.step.outcome = _ ∧ w.step.reader.pending = _ ∧ _ at step
  obtain ⟨outcome, pending, frames, rest⟩ := step
  have due : t.retries.plan.scheduled 1 = some .crossed := by rw [plan]; rfl
  have attempt (verdict : Verdict.ofOutcome? w.step.outcome = some .decoded)
      (none : w.turn.transfer.retries.failures = 0) :
      w.tried? = some ⟨t.reader.frames, some .crossed, .decoded, 0⟩ := by
    rw [tried?_of_ran below' verdict, none]
    show some (Try.mk t.reader.frames (t.retries.plan.scheduled 1) .decoded 0) = _
    rw [due]
  cases last : record.isEndOfLog with
  | true =>
      rw [last, if_pos rfl] at outcome
      obtain ⟨events, turn⟩ := turn_of_endOfLog below' outcome
      have none : w.turn.transfer.retries.failures = 0 := by
        rw [turn]
        exact congrArg Retries.failures w.decoded.finish_retries
      refine ⟨?_, ?_, ?_⟩
      · rw [tried, tries_of_stop turn, attempt (by rw [outcome]; rfl) none]
        rfl
      · intro _
        rw [advances, advance_of_stop turn]
        rw [w.decoded.finish_of_faithful faithful]
        exact ⟨rfl, rfl, rfl⟩
      · intro more
        rw [last] at more
        cases more
  | false =>
      rw [last, if_neg Bool.false_ne_true] at outcome
      have raw' : w.decoded.settings.raw = true := raw
      have converted : w.decoded.convertAll record.cells = .ok (record.cells.map fun cell => .int cell.2) := by
        rw [convertAll_eq]
        exact Setup.mapM_value_of_raw raw' _
      have answer := faithful.call (.write (t.rowOf record (record.cells.map fun cell => .int cell.2)))
      obtain ⟨events, turn⟩ := turn_of_frame below' outcome converted answer
      refine ⟨?_, ?_, ?_⟩
      · rw [tried, tries_of_again turn, attempt (by rw [outcome]; rfl) (by rw [turn]; rfl)]
        rfl
      · intro ended
        rw [last] at ended
        cases ended
      · intro _
        refine ⟨w.step.reader, events, ?_, pending, frames, rest⟩
        rw [advances, advance_of_again turn]
        rfl

/-! ## The swap -/

/-- The transfer is running, waits for a new frame with nothing left over, and no failure is counted. -/
structure AtRest (t : Transfer σ) : Prop where
  running : t.phase = .running
  failures : t.retries.failures = 0
  fresh : t.reader.pending = none
  packets : t.reader.queue.packets = []
  size : t.reader.queue.size = 0
  below : t.limitReached = false

omit [RowSink σ] in
/-- A transfer that keeps what every call keeps is at rest once no byte waits. -/
theorem Sound.atRest {plan : RetryPlan} (sound : Sound plan t) (running : t.phase = .running)
    (failures : t.retries.failures = 0) (fresh : t.reader.pending = none)
    (empty : t.reader.queue.isEmpty = true) (below : t.limitReached = false) : t.AtRest := by
  have stream : t.reader.queue.stream = [] := (PacketQueue.isEmpty_iff sound.reader.queue).1 empty
  have count := sound.reader.queue.length_packets_le
  rw [stream, List.length_nil] at count
  refine ⟨running, failures, fresh, ?_, ?_, below⟩
  · exact List.eq_nil_of_length_eq_zero (Nat.le_zero.1 count)
  · rw [sound.reader.queue.count, stream]
    rfl

/-- A payload in three packets, behind its length byte, whose last two packets arrive in each other's place.
    As it was sent it decodes; as it arrives it is corrupt. -/
structure Crossed (codec : RecordCodec) (n : UInt8) (a b c : Bytes) (record : Record) (cause : SchemaError) :
    Prop where
  first : a ≠ []
  second : b ≠ []
  third : c ≠ []
  into : a.length + b.length < n.toNat
  within : n.toNat ≤ a.length + b.length + c.length
  sent : codec.decode ((a ++ b ++ c).take n.toNat) = .ok record
  arrived : codec.decode ((a ++ c ++ b).take n.toNat) = .error cause
  mendable : cause.isMismatch = false

/-- In the order of the first retry the packets give the payload as it was sent, and leave what is behind
    it. -/
theorem Crossed.rearranged {codec : RecordCodec} {n : UInt8} {a b c : Bytes} {record : Record}
    {cause : SchemaError} (crossed : Crossed codec n a b c record cause) (later : List Bytes) :
    n.toNat ≤ (a :: c :: b :: later).flatten.length ∧
      codec.decode ((PacketOrder.crossed.arrange (a :: c :: b :: later)).flatten.take n.toNat) = .ok record ∧
      (PacketOrder.crossed.arrange (a :: c :: b :: later)).flatten.drop n.toNat
        = (a ++ b ++ c).drop n.toNat ++ later.flatten := by
  have inside : n.toNat ≤ (a ++ b ++ c).length := by
    rw [List.length_append, List.length_append]
    exact crossed.within
  have arranged : (PacketOrder.crossed.arrange (a :: c :: b :: later)).flatten
      = (a ++ b ++ c) ++ later.flatten := by
    rw [PacketOrder.arrange_crossed]
    simp only [List.flatten_cons, List.append_assoc]
  refine ⟨?_, ?_, ?_⟩
  · have within := crossed.within
    simp only [List.flatten_cons, List.length_append]
    omega
  · rw [arranged, List.take_append_of_le_length inside]
    exact crossed.sent
  · rw [arranged, List.drop_append_of_le_length inside]

/-- A packet alone in the queue of a transfer. -/
def alone (t : Transfer σ) (packet : Bytes) : PacketQueue :=
  { t.reader.queue with packets := [packet], size := packet.length }

omit [RowSink σ] in
theorem AtRest.write_first {packet : Bytes} (rest : t.AtRest) (some : packet ≠ [])
    (room : 0 < t.reader.queue.capacity) :
    t.reader.write packet = .ok { t.reader with queue := t.alone packet } := by
  have space : t.reader.queue.packets.length < t.reader.queue.capacity := by
    rw [rest.packets]
    exact room
  rw [FrameReader.write, PacketQueue.write_of_room some space, rest.packets, rest.size, Nat.zero_add]
  rfl

omit [RowSink σ] in
/-- The length byte is taken from the packet, and the rest of it is held. -/
theorem AtRest.begins_first {n : UInt8} {a : Bytes} (rest : t.AtRest) (nonzero : n ≠ 0) (some : a ≠ []) :
    FrameReader.Begins { t.reader with queue := t.alone (n :: a) } n.toNat
      (t.holding n.toNat [a] t.reader.log 0).reader := by
  have count : [a].flatten.length = a.length := by rw [List.flatten_singleton]
  have begun : (t.holding n.toNat [a] t.reader.log 0).reader = { t.reader with
      queue := { t.alone (n :: a) with packets := [a], size := (t.alone (n :: a)).size - 1 }
      pending := .some n.toNat } := by
    simp only [holding, count]
    rfl
  rw [begun]
  exact .taken n _ rest.fresh nonzero (PacketQueue.getByte_of_packet some rfl)

/-- The first packet begins the payload. -/
theorem AtRest.feed_first {n : UInt8} {a : Bytes} (rest : t.AtRest) (some : a ≠ [])
    (room : 0 < t.reader.queue.capacity) (few : a.length < n.toNat) :
    (t.feed (n :: a)).result = .ok .more ∧ t.triesOf (n :: a) = [] ∧
      (t.feed (n :: a)).transfer = t.holding n.toNat [a] t.reader.log 0 := by
  let w : Transfer σ := { t with reader := { t.reader with queue := t.alone (n :: a) } }
  let held := t.holding n.toNat [a] t.reader.log 0
  have accepted : t.reader.write (n :: a) = .ok w.reader := rest.write_first (List.cons_ne_nil n a) room
  have sound : w.reader.queue.Sound := by
    refine ⟨?_, ?_, room⟩
    · show (n :: a).length = [n :: a].flatten.length
      rw [List.flatten_singleton]
    · intro packet member
      rw [List.mem_singleton.1 member]
      exact List.cons_ne_nil n a
  have nonzero : n ≠ 0 := by
    rintro rfl
    exact Nat.not_lt_zero _ few
  have few' : held.reader.queue.size < n.toNat := by
    show [a].flatten.length < n.toNat
    rw [List.flatten_singleton]
    exact few
  have step : w.step.outcome = .ok .needMore ∧ w.step.reader = held.reader :=
    (rest.begins_first nonzero some).next_eq sound (.short few')
  obtain ⟨starved, reader⟩ := step
  have below : w.limitReached = false := rest.below
  obtain ⟨events, turn⟩ := turn_of_starved below starved
  have none : w.tried? = .none := tried?_of_idle (by rw [starved]; rfl)
  have left : w.stepped = held := by
    have retries : t.retries = { t.retries with failures := 0 } := by rw [← rest.failures]
    rw [stepped, reader]
    simp only [held, holding, ← retries]
    rfl
  rw [feed_of_running rest.running, triesOf_of_write rest.running accepted, accepted]
  show w.advance.result = _ ∧ w.tries = _ ∧ w.advance.transfer = held
  rw [advance_of_stop turn, tries_of_stop turn, none]
  exact ⟨rfl, rfl, left⟩

/-- The retry finds the record wherever it is due, with whatever packets are behind the three. -/
theorem Crossed.recovers {n : UInt8} {a b c packet : Bytes} {record : Record} {cause : SchemaError}
    {before : List Bytes} (crossed : Crossed t.codec n a b c record cause) (rest : t.AtRest)
    (plan : t.retries.plan = .default) (raw : t.settings.raw = true) (faithful : RowSink.NeverFails t.sink)
    (log : AttemptLog) (later : List Bytes) (fits : t.Fits (a :: c :: b :: later))
    (fed : (t.holding n.toNat before log 1).feed packet
          = (t.holding n.toNat (a :: c :: b :: later) log 1).advance ∧
        (t.holding n.toNat before log 1).triesOf packet
          = (t.holding n.toNat (a :: c :: b :: later) log 1).tries) :
    (t.holding n.toNat before log 1).Recovers packet record
      ((a ++ b ++ c).drop n.toNat ++ later.flatten) := by
  obtain ⟨enough, sent, left⟩ := crossed.rearranged later
  rw [← left]
  exact recovers_holding log rest.below plan raw faithful fits enough sent fed

/-- Under the default plan an adjacent swap is undone at the first retry. Up to one of the packets the
    transfer only waits, and has tried the payload once, in vain. That packet gives the record of the payload
    as it was sent, and what is behind the payload is read next, with the packets still to come. -/
theorem swap_undone {n : UInt8} {a b c d : Bytes} {record : Record} {cause : SchemaError}
    (rest : t.AtRest) (plan : t.retries.plan = .default) (raw : t.settings.raw = true)
    (room : 4 ≤ t.reader.queue.capacity) (faithful : RowSink.NeverFails t.sink)
    (crossed : Crossed t.codec n a b c record cause) :
    ∃ (before : List Bytes) (packet : Bytes) (later : List Bytes) (reader : FrameReader) (unread : Bytes),
      let waiting : Transfer σ := { t with reader, retries := t.retries.fail }
      [n :: a, c, b, d] = before ++ packet :: later ∧
        t.Waits before [⟨t.reader.frames, none, .corrupt cause, 1⟩] waiting ∧
        waiting.reader.frames = t.reader.frames ∧ waiting.Recovers packet record unread ∧
        unread ++ later.flatten = (a ++ b ++ c).drop n.toNat ++ d := by
  have into := crossed.into
  have arrived := crossed.arrived
  have few : a.length < n.toNat := by omega
  have begun := rest.feed_first crossed.first (by omega) few
  have fits₁ : t.Fits [a] := Fits.nil.concat crossed.first (show 0 < t.reader.queue.capacity by omega)
  have fits₂ : t.Fits [a, c] := fits₁.concat crossed.third (show 1 < t.reader.queue.capacity by omega)
  have fits₃ : t.Fits [a, c, b] := fits₂.concat crossed.second (show 2 < t.reader.queue.capacity by omega)
  have two : [a, c].flatten = a ++ c := by
    simp only [List.flatten_cons, List.flatten_nil, List.append_nil]
  have three : [a, c, b].flatten = a ++ c ++ b := by
    simp only [List.flatten_cons, List.flatten_nil, List.append_nil, List.append_assoc]
  -- What is held back with one failure counted differs from the transfer at rest in reader and count only.
  have waiting (packets : List Bytes) (log : AttemptLog) :
      t.holding n.toNat packets log 1
        = { t with reader := (t.holding n.toNat packets log 1).reader, retries := t.retries.fail } := by
    rw [Retries.fail, rest.failures]
    rfl
  by_cases early : n.toNat ≤ a.length + c.length
  · -- The second packet to arrive completes the payload, so the third one brings the retry.
    have enough : n.toNat ≤ (a ++ c).length := by
      rw [List.length_append]
      exact early
    have failed : t.codec.decode ([a, c].flatten.take n.toNat) = .error cause := by
      rw [List.take_append_of_le_length enough] at arrived
      rw [two]
      exact arrived
    obtain ⟨log, attempt⟩ := feed_corrupt [a] c t.reader.log rest.running rest.below plan fits₂
      (two ▸ enough) failed crossed.mendable
    have recovers := crossed.recovers rest plan raw faithful log [] fits₃
      (feed_holding [a, c] b rest.running fits₃)
    refine ⟨[n :: a, c], b, [d], (t.holding n.toNat [a, c] log 1).reader, _, rfl, ?_, rfl,
      waiting [a, c] log ▸ recovers, ?_⟩
    · rw [← waiting]
      exact .cons begun (.cons attempt .nil)
    · rw [List.flatten_nil, List.append_nil, List.flatten_singleton]
  · -- The third one completes it, so the retry waits for the packet behind it.
    have few' : [a, c].flatten.length < n.toNat := by
      rw [two, List.length_append]
      omega
    obtain ⟨enough, -, -⟩ := crossed.rearranged []
    have failed : t.codec.decode ([a, c, b].flatten.take n.toNat) = .error cause := by
      rw [three]
      exact arrived
    have joined := feed_short [a] c t.reader.log 0 rest.running rest.below fits₂ few'
    obtain ⟨log, attempt⟩ := feed_corrupt [a, c] b t.reader.log rest.running rest.below plan fits₃ enough
      failed crossed.mendable
    have recovers : (t.holding n.toNat [a, c, b] log 1).Recovers d record
        ((a ++ b ++ c).drop n.toNat ++ d) := by
      by_cases none : d = []
      · rw [none]
        exact crossed.recovers rest plan raw faithful log [] fits₃ (feed_holding_nil rest.running)
      · have fits₄ : t.Fits [a, c, b, d] := fits₃.concat none room
        have again := crossed.recovers rest plan raw faithful log [d] fits₄
          (feed_holding [a, c, b] d rest.running fits₄)
        rwa [List.flatten_singleton] at again
    refine ⟨[n :: a, c, b], d, [], (t.holding n.toNat [a, c, b] log 1).reader, _, rfl, ?_, rfl,
      waiting [a, c, b] log ▸ recovers, ?_⟩
    · rw [← waiting]
      exact .cons begun (.cons joined (.cons attempt .nil))
    · rw [List.flatten_nil, List.append_nil]

/-- A pressure reading in three packets; behind it the last packet holds the length of the next frame. -/
theorem swap_undone_pressure :
    let t : Transfer RowList := new { raw := true } .builtin {}
    let record : Record := ⟨[("TS", 1), ("p", 100)]⟩
    let cause : SchemaError := .malformed { field := some .gpio1Mv, cause := .notVarint .endGroup }
    (t.AtRest ∧ t.retries.plan = .default ∧ t.settings.raw = true ∧ 4 ≤ t.reader.queue.capacity ∧
      RowSink.NeverFails t.sink ∧ Crossed t.codec 4 [8] [1] [16, 100, 2] record cause) ∧
    ∃ (before : List Bytes) (packet : Bytes) (later : List Bytes) (reader : FrameReader) (unread : Bytes),
      let waiting : Transfer RowList := { t with reader, retries := t.retries.fail }
      [[4, 8], [16, 100, 2], [1], [8, 2]] = before ++ packet :: later ∧
        t.Waits before [⟨0, none, .corrupt cause, 1⟩] waiting ∧
        waiting.reader.frames = 0 ∧ waiting.Recovers packet record unread ∧
        unread ++ later.flatten = [2, 8, 2] := by
  intro t record cause
  have rest : t.AtRest := (Sound.fresh _ _ _ _).atRest rfl rfl rfl rfl rfl
  have faithful : RowSink.NeverFails t.sink := RowSink.neverFails_rowList _
  have crossed : Crossed t.codec 4 [8] [1] [16, 100, 2] record cause := by
    constructor <;> decide +kernel
  have room : 4 ≤ t.reader.queue.capacity := by decide
  exact ⟨⟨rest, rfl, rfl, room, faithful, crossed⟩, swap_undone rest rfl rfl room faithful crossed⟩

/-- The rest of the swapped packets and the one behind them are the next frame, which ends the log. -/
example :
    let run := (new { raw := true } .builtin ({} : RowList)).feeds [[4, 8], [16, 100, 2], [1], [8, 2]]
    run.results = [.ok .more, .ok .more, .ok .more, .ok (.complete 1)] := by
  decide +kernel

end Transfer

end SensorLog
