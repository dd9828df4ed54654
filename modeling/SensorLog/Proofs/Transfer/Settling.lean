import SensorLog.Proofs.Frame.Ledger
import SensorLog.Proofs.Transfer.Mirror
import SensorLog.Proofs.Transfer.Retrying
import SensorLog.Proofs.Transfer.Invariant
import SensorLog.Schema.Builtin

/-!
# Retries come to an end

`Loops` and `Settles` describe the loop of a feed and the loop of retrying pass by pass, with no
measure and no guard: a derivation exists exactly if the loop ends. Every transfer that calls lead to
has both (`run_settles`). A round of retrying finds its payload waiting in full, so it decodes a frame,
which leaves fewer bytes unread, or counts one failure more on the same bytes (`retryLoad_advance_lt`).
-/

namespace SensorLog

/-- The ways in which retrying can end. -/
def Reply.Settled {σ : Type} (reply : Reply σ) : Prop :=
  (reply.result = .ok .more ∧ reply.transfer.phase = .running ∧ reply.transfer.retries.failures = 0) ∨
    (reply.result = .ok (.complete reply.transfer.entries) ∧ reply.transfer.phase = .complete) ∨
    ∃ error, reply.result = .error error ∧ reply.transfer.phase = .failed

namespace Transfer

variable {σ : Type} [RowSink σ] {t : Transfer σ} {plan : RetryPlan}

/-- The loop of a feed from a transfer on: passes until one of them has an answer. -/
inductive Loops : Transfer σ → Reply σ → Prop
  | stop {t : Transfer σ} {reply : Reply σ} (turn : t.turn = .stop reply) : Loops t reply
  | again {t t' : Transfer σ} {events : List Event} {reply : Reply σ}
      (turn : t.turn = .again t' events) (later : Loops t' reply) : Loops t (reply.after events)

/-- The loop of retrying from a transfer on: empty packets as long as it is running with failures counted.
    The first step of each round has all that it asks for. -/
inductive Settles : Transfer σ → Reply σ → Prop
  | quiet {t : Transfer σ} (none : ¬ (t.phase = .running ∧ 0 < t.retries.failures)) : Settles t t.idle
  | failed {t : Transfer σ} {error : TransferError} (pending : t.phase = .running ∧ 0 < t.retries.failures)
      (waiting : t.step.outcome ≠ .ok .needMore) (answer : (t.feed []).result = .error error) :
      Settles t { result := .error error, transfer := (t.feed []).transfer
                  events := .retryPending t.retries.failures :: (t.feed []).events }
  | round {t : Transfer σ} {progress : Progress} {reply : Reply σ}
      (pending : t.phase = .running ∧ 0 < t.retries.failures) (waiting : t.step.outcome ≠ .ok .needMore)
      (answer : (t.feed []).result = .ok progress) (later : Settles (t.feed []).transfer reply) :
      Settles t (reply.after (.retryPending t.retries.failures :: (t.feed []).events))

theorem loops_advance (t : Transfer σ) : Loops t t.advance := by
  induction t using advance_induction with
  | stop t reply turn =>
      rw [advance_of_stop turn]
      exact .stop turn
  | again t t' events turn ih =>
      rw [advance_of_again turn]
      exact .again turn ih

/-- Retrying that has come to an end has left no failure behind in a running transfer. -/
theorem Settles.settled {reply : Reply σ} (settles : Settles t reply) : reply.Settled := by
  induction settles with
  | @quiet t none =>
      cases phase : t.phase with
      | running =>
          have failures : t.retries.failures = 0 := by
            apply Nat.eq_zero_of_not_pos
            intro failed
            exact none ⟨phase, failed⟩
          simp only [idle, phase]
          exact .inl ⟨rfl, phase, failures⟩
      | complete =>
          simp only [idle, phase]
          exact .inr (.inl ⟨rfl, phase⟩)
      | failed =>
          simp only [idle, phase]
          exact .inr (.inr ⟨.closed, rfl, phase⟩)
  | @failed t error pending waiting answer =>
      exact .inr (.inr ⟨error, rfl, (agrees_feed t []).failed answer⟩)
  | round pending waiting answer later ih => exact ih

/-! ## What no call changes -/

/-- A pass that stops leaves the reader as it was or as its step left it. -/
theorem kept_of_stop {reply : Reply σ} (turn : t.turn = .stop reply) :
    (reply.transfer.reader = t.reader ∨ reply.transfer.reader = t.step.reader) ∧
      reply.transfer.setup = t.setup := by
  cases case_of_turn turn with
  | limit reached events =>
      obtain ⟨sink, -, phase, -, finished, -⟩ := t.transfer_finish
      rw [Reply.transfer_after, finished]
      exact ⟨.inl rfl, rfl⟩
  | ended below outcome events =>
      obtain ⟨sink, -, phase, -, finished, -⟩ := t.decoded.transfer_finish
      rw [Reply.transfer_after, finished]
      exact ⟨.inr rfl, rfl⟩
  | starved below outcome events => exact ⟨.inr rfl, rfl⟩
  | broken cause below outcome events => exact ⟨.inr rfl, rfl⟩
  | unknownColumn record cause below outcome unknown events => exact ⟨.inr rfl, rfl⟩
  | refused record values sink cause below outcome converted answer events => exact ⟨.inr rfl, rfl⟩
  | retry cause below outcome within events => exact ⟨.inr rfl, rfl⟩
  | exhausted cause below outcome spent events => exact ⟨.inr rfl, rfl⟩

theorem setup_of_again {t' : Transfer σ} {events : List Event} (turn : t.turn = .again t' events) :
    t'.setup = t.setup := by
  cases case_of_turn turn with
  | written => rfl

theorem setup_advance (t : Transfer σ) : t.advance.transfer.setup = t.setup := by
  induction t using advance_induction with
  | stop t reply turn =>
      rw [advance_of_stop turn]
      exact (kept_of_stop turn).2
  | again t t' events turn ih =>
      rw [advance_of_again turn]
      exact ih.trans (setup_of_again turn)

theorem setup_feed (t : Transfer σ) (packet : Bytes) : (t.feed packet).transfer.setup = t.setup := by
  by_cases running : t.phase = .running
  · rw [feed_of_running running]
    split
    · rfl
    · exact setup_advance _
  · rw [(feed_of_ended running packet).1]

theorem setup_feeds (t : Transfer σ) (packets : List Bytes) :
    (t.feeds packets).transfer.setup = t.setup := by
  induction packets generalizing t with
  | nil => rfl
  | cons packet rest ih =>
      rw [feeds_cons]
      exact (ih _).trans (setup_feed t packet)

theorem Sound.feeds (sound : Sound plan t) (packets : List Bytes) :
    Sound plan (t.feeds packets).transfer := by
  induction packets generalizing t with
  | nil => exact sound
  | cons packet rest ih =>
      rw [feeds_cons]
      exact ih (sound.feed packet)

theorem Sound.run (sound : Sound plan t) (calls : List Call) : Sound plan (t.run calls).transfer := by
  rw [transfer_run]
  exact sound.feeds _

/-! ## Each round has less to do -/

/-- The loop leaves no more bytes unread than it found. -/
theorem Sound.load_advance_le (sound : Sound plan t) : t.advance.transfer.reader.load ≤ t.reader.load := by
  induction t using advance_induction with
  | stop t reply turn =>
      rw [advance_of_stop turn]
      rcases (kept_of_stop turn).1 with same | stepped
      · rw [same]
      · rw [stepped]
        exact sound.reading.load_le sound.reader
  | again t t' events turn ih =>
      rw [advance_of_again turn]
      exact Nat.le_trans (ih (sound.of_again turn).1) (Nat.le_of_lt (load_turn_lt turn))

omit [RowSink σ] in
/-- Fewer unread bytes count first, more failures within the plan second. -/
theorem retryLoad_lt {t' : Transfer σ} (plan_eq : t'.retries.plan = t.retries.plan)
    (lower : t'.reader.load < t.reader.load ∨
      (t'.reader.load ≤ t.reader.load ∧ t.retries.failures < t'.retries.failures ∧
        t.retries.failures < t.retries.plan.maxAttempts)) : t'.retryLoad < t.retryLoad := by
  rw [retryLoad, retryLoad, plan_eq]
  generalize t.retries.plan.maxAttempts = attempts at lower ⊢
  rcases lower with fewer | ⟨same, failed, left⟩
  · have weight := Nat.mul_le_mul_right (attempts + 1) (Nat.succ_le_of_lt fewer)
    rw [Nat.succ_mul] at weight
    omega
  · have weight := Nat.mul_le_mul_right (attempts + 1) same
    omega

/-- A round of retrying that is not answered with an error has decoded the payload or failed once more. -/
theorem Sound.retryLoad_advance_lt (sound : Sound plan t) (running : t.phase = .running)
    (failed : 0 < t.retries.failures) {progress : Progress} (answer : t.advance.result = .ok progress) :
    t.advance.transfer.retryLoad < t.retryLoad := by
  have kept : t.advance.transfer.retries.plan = t.retries.plan :=
    (sound.advance running).plan_eq.trans sound.plan_eq.symm
  have read := sound.reading
  cases turn : t.turn with
  | again t' events =>
      -- A frame was decoded; whatever comes behind it adds no bytes.
      rw [advance_of_again turn] at kept ⊢
      have later := (sound.of_again turn).1.load_advance_le
      exact retryLoad_lt kept (.inl (Nat.lt_of_le_of_lt later (load_turn_lt turn)))
  | stop reply =>
      rw [advance_of_stop turn] at answer kept ⊢
      cases case_of_turn turn with
      | limit reached events =>
          have none := sound.no_failures_of_limit running reached
          omega
      | starved below outcome events =>
          have none := sound.no_failures_of_starved running outcome
          omega
      | ended below outcome events =>
          rw [outcome] at read
          have fewer := read.load_lt_of_endOfLog sound.reader
          obtain ⟨sink, -, phase, -, finished, -⟩ := t.decoded.transfer_finish
          rw [Reply.transfer_after, finished] at kept ⊢
          exact retryLoad_lt kept (.inl fewer)
      | retry cause below outcome within events =>
          have attempts : t.retries.failures < t.retries.plan.maxAttempts := Nat.lt_succ_of_lt within
          exact retryLoad_lt kept (.inr ⟨read.load_le sound.reader, Nat.lt_succ_self _, attempts⟩)
      | broken cause below outcome events => cases answer
      | unknownColumn record cause below outcome unknown events => cases answer
      | refused record values sink cause below outcome converted answered events => cases answer
      | exhausted cause below outcome spent events => cases answer

omit [RowSink σ] in
/-- A round of retrying has all the bytes that it asks for. -/
theorem Sound.waits (sound : Sound plan t) (pending : t.phase = .running ∧ 0 < t.retries.failures) :
    t.step.outcome ≠ .ok .needMore := by
  obtain ⟨running, failed⟩ := pending
  intro starved
  have none := sound.no_failures_of_starved running starved
  omega

/-- Retrying never comes to the guard that stops it when a round has left as much to do as before. -/
theorem Sound.settles (sound : Sound plan t) : Settles t t.retryPending := by
  induction t using retryPending_induction with
  | failed t error pending failed =>
      rw [retryPending_of_error pending failed]
      exact .failed pending (sound.waits pending) failed
  | round t progress pending answer lower ih =>
      rw [retryPending_of_round pending answer lower]
      exact .round pending (sound.waits pending) answer (ih (sound.feed []))
  | stuck t progress pending answer stuck =>
      obtain ⟨running, failures⟩ := pending
      rw [feed_nil running] at answer stuck
      exact absurd (sound.retryLoad_advance_lt running failures answer) stuck
  | quiet t quiet =>
      rw [retryPending_of_quiet quiet]
      exact .quiet quiet

/-- Wherever calls have led a fresh transfer to: while it runs, its failures are within the plan, and a
    payload with failures waits in full, with an entry still wanted. So the loop of a feed and the loop of
    retrying end, no round of retrying lacks bytes, and retrying leaves the transfer waiting without
    failures, complete, or failed, as its answer says. -/
theorem run_settles (settings : Settings) (registry : Registry) (codec : RecordCodec) (sink : σ)
    (calls : List Call) :
    let t := ((ofCodec settings registry codec sink).run calls).transfer
    (t.phase = .running → t.retries.failures ≤ settings.plan.orders.length ∧
        (0 < t.retries.failures →
          (∃ size, t.reader.pending = some size ∧ size ≤ t.reader.queue.stream.length) ∧
            ∀ max, settings.maxEntries? = some max → t.entries < max)) ∧
      (∀ packet reader, t.phase = .running → t.reader.write packet = .ok reader →
        Loops { t with reader } (t.feed packet)) ∧
      Settles t t.retryPending ∧ t.retryPending.Settled := by
  intro t
  have sound : Sound settings.plan t := (Sound.fresh settings registry codec sink).run calls
  have setup : t.setup = (ofCodec settings registry codec sink).setup := by
    show ((ofCodec settings registry codec sink).run calls).transfer.setup = _
    rw [transfer_run]
    exact setup_feeds _ _
  have same : t.settings = settings := congrArg Setup.settings setup
  refine ⟨?_, ?_, sound.settles, sound.settles.settled⟩
  · intro running
    refine ⟨sound.budget running, ?_⟩
    intro failed
    obtain ⟨below, size, held, enough⟩ := sound.waiting running failed
    refine ⟨⟨size, held, sound.reader.queue.count ▸ enough⟩, ?_⟩
    intro max wanted
    rw [limitReached, same, wanted] at below
    exact Nat.lt_of_not_le (of_decide_eq_false below)
  · intro packet reader running accepted
    rw [feed_of_running running, accepted]
    exact loops_advance _

/-- Two packets have changed places; retrying finds their record without further bytes. -/
example :
    let t := ((new { raw := true } .builtin ({} : RowList)).run
      [.feed [4, 8], .feed [16, 100], .feed [1]]).transfer
    t.retries.failures = 1 ∧ t.retryPending.transfer.retries.failures = 0 ∧
      t.retryPending.transfer.entries = 1 := by
  decide +kernel

end Transfer

end SensorLog
