import SensorLog.Proofs.Transfer.Run

/-!
# What a transfer keeps

`Sound plan` is what every call keeps: a sound reader, the plan, and for a running transfer a count
of failures within the plan. A running transfer with failures has the payload of its corrupt frame
waiting in full and is below the entry limit, so its next pass reads that payload again: a pass that
stops at the limit, or for want of bytes, or between two frames, finds no failures counted.
-/

namespace SensorLog

namespace FrameReader

/-- A step that finds all of its payload waiting does not ask for more. -/
theorem Reading.outcome_of_waiting {r : FrameReader} {codec : RecordCodec} {order? : Option PacketOrder}
    {outcome : Except FrameError Outcome} {reader : FrameReader} {size : Nat}
    (read : r.Reading codec order? outcome reader) (held : r.pending = some size)
    (waiting : size ≤ r.queue.size) : outcome ≠ .ok .needMore := by
  cases read with
  | idle fresh =>
      rw [fresh] at held
      cases held
  | zero queue fresh => exact nofun
  | payload begins read =>
      cases begins with
      | taken b queue fresh =>
          rw [fresh] at held
          cases held
      | awaited size' held' =>
          rw [held'] at held
          cases held
          cases read with
          | short few => omega
          | frame => exact nofun
          | endOfLog => exact nofun
          | mismatch => exact nofun
          | corrupt => exact nofun

/-- A corrupt payload stays where it is. -/
theorem Reading.waiting_of_corrupt {r : FrameReader} {codec : RecordCodec}
    {order? : Option PacketOrder} {cause : SchemaError} {reader : FrameReader}
    (read : r.Reading codec order? (.ok (.corrupt cause)) reader) :
    ∃ size, reader.pending = some size ∧ size ≤ reader.queue.size := by
  cases read with
  | payload begins read =>
      cases read with
      | corrupt _ enough => exact ⟨_, begins.pending_eq, enough⟩

end FrameReader

namespace Transfer

variable {σ : Type} {t : Transfer σ} {plan : RetryPlan}

/-- What every call keeps. -/
structure Sound (plan : RetryPlan) (t : Transfer σ) : Prop where
  plan_eq : t.retries.plan = plan
  reader : t.reader.Sound
  budget : t.phase = .running → t.retries.failures ≤ plan.orders.length
  waiting : t.phase = .running → 0 < t.retries.failures →
    t.limitReached = false ∧ ∃ size, t.reader.pending = some size ∧ size ≤ t.reader.queue.size

theorem Sound.fresh (settings : Settings) (registry : Registry) (codec : RecordCodec) (sink : σ) :
    Sound settings.plan (ofCodec settings registry codec sink) :=
  ⟨rfl, .new _ _, fun _ => Nat.zero_le _, fun _ failed => absurd failed (Nat.lt_irrefl 0)⟩

/-- A transfer without failures needs a sound reader only. -/
theorem Sound.of_no_failures (plan_eq : t.retries.plan = plan) (reader : t.reader.Sound)
    (none : t.retries.failures = 0) : Sound plan t := by
  refine ⟨plan_eq, reader, ?_, ?_⟩
  · intro running
    omega
  · intro running failed
    omega

/-- So does one that is over. -/
theorem Sound.of_ended (plan_eq : t.retries.plan = plan) (reader : t.reader.Sound)
    (ended : t.phase ≠ .running) : Sound plan t :=
  ⟨plan_eq, reader, fun running => absurd running ended, fun running => absurd running ended⟩

theorem Sound.reading (sound : Sound plan t) :
    t.reader.Reading t.codec t.retries.order? t.step.outcome t.step.reader :=
  FrameReader.next_reading sound.reader _ _

theorem Sound.stepped (sound : Sound plan t) : t.stepped.reader.Sound :=
  sound.reading.sound sound.reader

theorem Sound.no_failures_of_limit (sound : Sound plan t) (running : t.phase = .running)
    (reached : t.limitReached = true) : t.retries.failures = 0 := by
  apply Nat.eq_zero_of_not_pos
  intro failed
  obtain ⟨below, -⟩ := sound.waiting running failed
  rw [reached] at below
  cases below

theorem Sound.no_failures_of_starved (sound : Sound plan t) (running : t.phase = .running)
    (outcome : t.step.outcome = .ok .needMore) : t.retries.failures = 0 := by
  apply Nat.eq_zero_of_not_pos
  intro failed
  obtain ⟨-, size, held, enough⟩ := sound.waiting running failed
  exact sound.reading.outcome_of_waiting held enough outcome

theorem Sound.no_failures_of_fresh (sound : Sound plan t) (running : t.phase = .running)
    (fresh : t.reader.pending = none) : t.retries.failures = 0 := by
  apply Nat.eq_zero_of_not_pos
  intro failed
  obtain ⟨-, size, held, -⟩ := sound.waiting running failed
  rw [fresh] at held
  cases held

theorem Sound.fail (sound : Sound plan t) (error : TransferError) : Sound plan (t.fail error).transfer :=
  .of_ended sound.plan_eq sound.reader nofun

theorem Sound.decoded (sound : Sound plan t) : Sound plan t.decoded :=
  .of_no_failures sound.plan_eq sound.stepped rfl

/-- A failure within the plan leaves the payload waiting for the next order. -/
theorem Sound.failedOnce {cause : SchemaError} (sound : Sound plan t) (below : t.limitReached = false)
    (outcome : t.step.outcome = .ok (.corrupt cause)) (within : t.retries.failures < plan.orders.length) :
    Sound plan t.failedOnce := by
  have read := sound.reading
  rw [outcome] at read
  refine ⟨sound.plan_eq, sound.stepped, ?_, ?_⟩
  · intro running
    exact within
  · intro running failed
    exact ⟨below, read.waiting_of_corrupt⟩

variable [RowSink σ]

theorem Sound.finish (sound : Sound plan t) : Sound plan t.finish.transfer := by
  obtain ⟨sink, -, phase, -, finished, ended⟩ := t.transfer_finish
  rw [finished]
  exact .of_ended sound.plan_eq sound.reader ended

theorem Sound.of_stop {reply : Reply σ} (sound : Sound plan t) (running : t.phase = .running)
    (turn : t.turn = .stop reply) : Sound plan reply.transfer := by
  cases case_of_turn turn with
  | limit reached events => exact sound.finish
  | starved below outcome events =>
      have none := sound.no_failures_of_starved running outcome
      exact .of_no_failures sound.plan_eq sound.stepped none
  | broken cause below outcome events => exact .of_ended sound.plan_eq sound.stepped nofun
  | ended below outcome events => exact sound.decoded.finish
  | unknownColumn record cause below outcome unknown events =>
      exact sound.decoded.fail (.frame (.schema cause))
  | refused record values sink cause below outcome converted answer events =>
      exact .of_ended sound.plan_eq sound.stepped nofun
  | retry cause below outcome within events =>
      rw [sound.plan_eq] at within
      exact sound.failedOnce below outcome within
  | exhausted cause below outcome spent events => exact .of_ended sound.plan_eq sound.stepped nofun

theorem Sound.of_again {t' : Transfer σ} {events : List Event} (sound : Sound plan t)
    (turn : t.turn = .again t' events) : Sound plan t' ∧ t'.phase = t.phase := by
  cases case_of_turn turn with
  | written record values sink below outcome converted answer events =>
      exact ⟨.of_no_failures sound.plan_eq sound.stepped rfl, rfl⟩

theorem Sound.advance (sound : Sound plan t) (running : t.phase = .running) :
    Sound plan t.advance.transfer := by
  induction t using advance_induction with
  | stop t reply turn =>
      rw [advance_of_stop turn]
      exact sound.of_stop running turn
  | again t t' events turn ih =>
      obtain ⟨sound', phase⟩ := sound.of_again turn
      rw [advance_of_again turn]
      exact ih sound' (phase.trans running)

omit [RowSink σ] in
/-- A packet that found room only adds waiting bytes. -/
theorem Sound.write {queue : PacketQueue} {packet : Bytes} (sound : Sound plan t) (queued : queue.Sound)
    (stream : queue.stream = t.reader.queue.stream ++ packet) :
    Sound plan { t with reader := { t.reader with queue } } := by
  refine ⟨sound.plan_eq, ⟨queued, sound.reader.pending, sound.reader.log⟩, sound.budget, ?_⟩
  intro running failed
  obtain ⟨below, size, held, enough⟩ := sound.waiting running failed
  refine ⟨below, size, held, ?_⟩
  have before := sound.reader.queue.count
  rw [queued.count, stream, List.length_append]
  omega

/-- The ways in which a running transfer takes a packet. -/
theorem Sound.feed_cases (sound : Sound plan t) (running : t.phase = .running) (packet : Bytes) :
    (∃ queue, t.reader.write packet = .ok { t.reader with queue } ∧
        t.feed packet = ({ t with reader := { t.reader with queue } } : Transfer σ).advance ∧
        Sound plan ({ t with reader := { t.reader with queue } } : Transfer σ) ∧
        queue.stream = t.reader.queue.stream ++ packet ∧ queue.capacity = t.reader.queue.capacity) ∨
      (t.reader.write packet = .error (.bufferFull t.reader.queue.capacity) ∧
        t.feed packet = t.fail (.frame (.bufferFull t.reader.queue.capacity)) ∧
        t.reader.queue.capacity = t.reader.queue.packets.length) := by
  rw [feed_of_running running]
  rcases FrameReader.write_cases sound.reader packet with
    ⟨queue, accepted, queued, stream, capacity⟩ | ⟨full, -, exact⟩
  · exact .inl ⟨queue, accepted, by rw [accepted], sound.write queued stream, stream, capacity⟩
  · exact .inr ⟨full, by rw [full], exact⟩

theorem Sound.feed (sound : Sound plan t) (packet : Bytes) : Sound plan (t.feed packet).transfer := by
  by_cases running : t.phase = .running
  · rcases sound.feed_cases running packet with ⟨queue, -, advances, sound', -, -⟩ | ⟨-, full, -⟩
    · rw [advances]
      exact sound'.advance running
    · rw [full]
      exact sound.fail _
  · obtain ⟨same, -⟩ := feed_of_ended running packet
    rw [same]
    exact sound

end Transfer

end SensorLog
