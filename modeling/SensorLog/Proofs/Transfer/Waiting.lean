import SensorLog.Proofs.Transfer.Faults

/-!
# No whole frame is left waiting

A call stops for want of bytes, at a corrupt frame, or for good. So a running transfer that has no failures
counted holds less than its next frame: `Drained` says so, and that an entry is still wanted. There an empty
packet changes nothing (`Drained.feed_nil`), at most 254 packets wait, and a queue of 255 places has room
(`run_drained`).
-/

namespace SensorLog

namespace FrameReader

variable {r reader : FrameReader} {codec : RecordCodec} {order? : Option PacketOrder}

/-! ## Readers that lack bytes -/

/-- No whole frame waits: between two frames nothing does, and inside one fewer bytes than announced. -/
structure Starved (r : FrameReader) : Prop where
  fresh : r.pending = none → r.queue.stream = []
  begun : ∀ size, r.pending = some size → r.queue.stream.length < size

/-- A step that asks for more leaves no whole frame behind. -/
theorem Reading.starved (read : r.Reading codec order? (.ok .needMore) reader) (sound : r.Sound) :
    reader.Starved := by
  cases read with
  | idle fresh empty =>
      constructor
      · exact fun _ => empty
      · intro size held
        rw [fresh] at held
        cases held
  | payload begins read =>
      have held := begins.pending_eq
      have count := (begins.sound sound).queue.count
      cases read with
      | short few =>
          constructor
          · intro fresh
            rw [held] at fresh
            cases fresh
          · intro size held'
            rw [held] at held'
            cases held'
            omega

/-- Without a whole frame a step asks for more and takes nothing, whatever the order. -/
theorem Reading.of_starved {outcome : Except FrameError Outcome} (read : r.Reading codec order? outcome reader)
    (sound : r.Sound) (starved : r.Starved) : outcome = .ok .needMore ∧ reader = r := by
  have taken (fresh : r.pending = none) {b : UInt8} {queue : PacketQueue}
      (head : r.queue.getByte = .ok (b, queue)) : False := by
    have stream := (sound.queue.getByte head).2
    rw [starved.fresh fresh] at stream
    cases stream
  cases read with
  | idle => exact ⟨rfl, rfl⟩
  | zero queue fresh head => exact (taken fresh head).elim
  | payload begins read =>
      cases begins with
      | taken b queue fresh nonzero head => exact (taken fresh head).elim
      | awaited _ held =>
          have few := starved.begun _ held
          have count := sound.queue.count
          cases read with
          | short => exact ⟨rfl, rfl⟩
          | frame record enough => omega
          | endOfLog record enough => omega
          | mismatch cause enough => omega
          | corrupt cause enough => omega

/-- A length is at most 255, and each packet holds a byte. -/
theorem Starved.length_packets_le (starved : r.Starved) (sound : r.Sound) : r.queue.packets.length ≤ 254 := by
  have waiting := sound.queue.length_packets_le
  cases held : r.pending with
  | none =>
      rw [starved.fresh held, List.length_nil] at waiting
      omega
  | some size =>
      have few := starved.begun size held
      have bound := (sound.pending size held).2
      omega

theorem Starved.packets_of_fresh (starved : r.Starved) (sound : r.Sound) (fresh : r.pending = none) :
    r.queue.packets = [] := by
  have waiting := sound.queue.length_packets_le
  rw [starved.fresh fresh, List.length_nil] at waiting
  exact List.eq_nil_of_length_eq_zero (Nat.le_zero.1 waiting)

end FrameReader

namespace Transfer

variable {σ : Type} {t : Transfer σ} {plan : RetryPlan}

/-- The transfer has done all that it can with the bytes that it has. -/
structure Drained (t : Transfer σ) : Prop where
  reader : t.reader.Starved
  wanted : t.settings.maxEntries? ≠ some 0 → t.limitReached = false

theorem Drained.fresh (settings : Settings) (registry : Registry) (codec : RecordCodec) (sink : σ) :
    (ofCodec settings registry codec sink).Drained := by
  constructor
  · exact ⟨fun _ => rfl, nofun⟩
  · intro some
    have same : (ofCodec settings registry codec sink).settings = settings := rfl
    rw [same] at some
    unfold limitReached
    rw [same]
    cases limit : settings.maxEntries? with
    | none => rfl
    | some max =>
        rw [limit] at some
        have positive : max ≠ 0 := fun zero => some (congrArg Option.some zero)
        exact decide_eq_false (fun none => positive (Nat.le_zero.1 none))

variable [RowSink σ]

/-! ## Calls leave nothing to do -/

/-- A pass that leaves the transfer running without failures had asked for more bytes. -/
theorem Sound.drained_of_stop {reply : Reply σ} (sound : Sound plan t) (turn : t.turn = .stop reply)
    (running : reply.transfer.phase = .running) (none : reply.transfer.retries.failures = 0) :
    reply.transfer.Drained := by
  have finished (u : Transfer σ) : u.finish.transfer.phase ≠ .running := by
    obtain ⟨sink, -, phase, -, whole, ended⟩ := u.transfer_finish
    rw [whole]
    exact ended
  cases case_of_turn turn with
  | limit reached events => exact absurd running (finished t)
  | ended below outcome events => exact absurd running (finished t.decoded)
  | starved below outcome events =>
      have read := sound.reading
      rw [outcome] at read
      exact ⟨read.starved sound.reader, fun _ => below⟩
  | retry cause below outcome within events => cases none
  | broken cause below outcome events => cases running
  | unknownColumn record cause below outcome unknown events => cases running
  | refused record values sink cause below outcome converted answer events => cases running
  | exhausted cause below outcome spent events => cases running

theorem Sound.drained_advance (sound : Sound plan t) (running : t.advance.transfer.phase = .running)
    (none : t.advance.transfer.retries.failures = 0) : t.advance.transfer.Drained := by
  induction t using advance_induction with
  | stop t reply turn =>
      rw [advance_of_stop turn] at running none ⊢
      exact sound.drained_of_stop turn running none
  | again t t' events turn ih =>
      rw [advance_of_again turn] at running none ⊢
      exact ih (sound.of_again turn).1 running none

theorem Sound.drained_feed (sound : Sound plan t) {packet : Bytes}
    (running : (t.feed packet).transfer.phase = .running)
    (none : (t.feed packet).transfer.retries.failures = 0) : (t.feed packet).transfer.Drained := by
  have open' : t.phase = .running := by
    by_contra ended
    rw [(feed_of_ended ended packet).1] at running
    exact ended running
  rcases sound.feed_cases open' packet with ⟨queue, -, advances, sound', -, -⟩ | ⟨-, full, -⟩
  · rw [advances] at running none ⊢
    exact sound'.drained_advance running none
  · rw [full] at running
    cases running

theorem Sound.drained_feeds (sound : Sound plan t) (packets : List Bytes)
    (drained : t.phase = .running → t.retries.failures = 0 → t.Drained)
    (running : (t.feeds packets).transfer.phase = .running)
    (none : (t.feeds packets).transfer.retries.failures = 0) : (t.feeds packets).transfer.Drained := by
  induction packets generalizing t with
  | nil => exact drained running none
  | cons packet rest ih =>
      rw [feeds_cons] at running none ⊢
      exact ih (sound.feed packet) sound.drained_feed running none

/-- An empty packet is answered with "more" and leaves the transfer as it was. -/
theorem Drained.feed_nil (drained : t.Drained) (sound : Sound plan t) (running : t.phase = .running)
    (some : t.settings.maxEntries? ≠ .some 0) :
    (t.feed []).result = .ok .more ∧ (t.feed []).transfer = t := by
  obtain ⟨outcome, reader⟩ := sound.reading.of_starved sound.reader drained.reader
  obtain ⟨events, turn⟩ := turn_of_starved (drained.wanted some) outcome
  have same : t.stepped = t := by rw [stepped, reader]
  rw [Transfer.feed_nil running, advance_of_stop turn]
  exact ⟨rfl, same⟩

/-! ## Room for a packet -/

theorem Sound.capacity_advance (sound : Sound plan t) :
    t.advance.transfer.reader.queue.capacity = t.reader.queue.capacity := by
  induction t using advance_induction with
  | stop t reply turn =>
      rw [advance_of_stop turn]
      rcases (kept_of_stop turn).1 with same | stepped
      · rw [same]
      · rw [stepped]
        exact sound.reading.capacity_eq
  | again t t' events turn ih =>
      have reader : t'.reader = t.step.reader := by
        cases case_of_turn turn with
        | written => rfl
      rw [advance_of_again turn]
      exact (ih (sound.of_again turn).1).trans (reader ▸ sound.reading.capacity_eq)

theorem Sound.capacity_feed (sound : Sound plan t) (packet : Bytes) :
    (t.feed packet).transfer.reader.queue.capacity = t.reader.queue.capacity := by
  by_cases running : t.phase = .running
  · rcases sound.feed_cases running packet with ⟨queue, -, advances, sound', -, capacity⟩ | ⟨-, full, -⟩
    · rw [advances]
      exact sound'.capacity_advance.trans capacity
    · rw [full]
      rfl
  · rw [(feed_of_ended running packet).1]

theorem Sound.capacity_feeds (sound : Sound plan t) (packets : List Bytes) :
    (t.feeds packets).transfer.reader.queue.capacity = t.reader.queue.capacity := by
  induction packets generalizing t with
  | nil => rfl
  | cons packet rest ih =>
      rw [feeds_cons]
      exact (ih (sound.feed packet)).trans (sound.capacity_feed packet)

/-- Wherever calls have led a fresh transfer to: while it runs without failures, nothing waits between two
    frames and less than was announced inside one, so at most 254 packets wait; an empty packet is answered
    with "more" and changes nothing, unless no entry was wanted to begin with. With 255 places a packet finds
    no room only while a corrupt frame awaits its retry. -/
theorem run_drained (settings : Settings) (registry : Registry) (codec : RecordCodec) (sink : σ)
    (calls : List Call) :
    let t := ((ofCodec settings registry codec sink).run calls).transfer
    (t.phase = .running → t.retries.failures = 0 →
        (t.reader.pending = none → t.reader.queue.packets = []) ∧
        (∀ size, t.reader.pending = some size → t.reader.queue.packets.flatten.length < size) ∧
        t.reader.queue.packets.length ≤ 254 ∧
        (settings.maxEntries? ≠ some 0 → (t.feed []).result = .ok .more ∧ (t.feed []).transfer = t)) ∧
      (255 ≤ settings.capacity → ∀ packet capacity,
        (t.feed packet).result = .error (.frame (.bufferFull capacity)) →
          t.phase = .running ∧ 0 < t.retries.failures) := by
  intro t
  let start := ofCodec settings registry codec sink
  have begun : Sound settings.plan start := .fresh settings registry codec sink
  have fed : t = (start.feeds (start.packetsOf calls)).transfer := transfer_run start calls
  have sound : Sound settings.plan t := begun.run calls
  have same : t.settings = settings := by
    rw [fed]
    exact congrArg Setup.settings (setup_feeds start _)
  have places : t.reader.queue.capacity = settings.capacity := by
    rw [fed]
    exact begun.capacity_feeds _
  have drained : t.phase = .running → t.retries.failures = 0 → t.Drained := by
    rw [fed]
    exact begun.drained_feeds _ fun _ _ => .fresh settings registry codec sink
  constructor
  · intro running none
    have waits := drained running none
    refine ⟨waits.reader.packets_of_fresh sound.reader, waits.reader.begun,
      waits.reader.length_packets_le sound.reader, ?_⟩
    intro some
    exact waits.feed_nil sound running (same ▸ some)
  · intro room packet capacity full
    rcases sound.fault_or_full full with fault | ⟨-, running, exact⟩
    · cases fault
    · refine ⟨running, Nat.pos_of_ne_zero ?_⟩
      intro none
      have few := (drained running none).reader.length_packets_le sound.reader
      omega

end Transfer

end SensorLog
