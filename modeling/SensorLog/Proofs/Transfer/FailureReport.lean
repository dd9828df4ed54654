import SensorLog.Proofs.Frame.Journal
import SensorLog.Proofs.Transfer.LifeCycle
import SensorLog.Proofs.Transfer.Settling
import SensorLog.Proofs.Transfer.Tries

/-!
# The report of a frame that is given up

A transfer that gives a frame up reports its last attempts and the packets that wait. Both are kept elsewhere: the
attempts by the log of the reader, the packets by its queue, and the count of failures by the retries. `Traced` ties a
transfer to the runs of the codec in its passes and to the bytes that they used up, `Attempting` to those of the runs
that failed on the frame at hand. Each of these is on the packets that waited at the first of them and those that came
since, in arrival order, so the packets of the report show what every attempt has seen (`run_reports_attempts`).
-/

namespace SensorLog

/-- Attempt `k` on a payload that does not decode. It reads, under the order of its turn, the packets that were held
    at the first attempt and the first `k` of those that came later; an empty packet leaves no trace. -/
structure CodecRun.FailedAs (plan : RetryPlan) (size : Nat) (held later : List Bytes) (k : Nat) (run : CodecRun) :
    Prop where
  size_eq : run.size = size
  order : run.order? = plan.scheduled k
  packets : run.queue.packets = held ++ (later.take k).filter (!·.isEmpty)
  window : run.window = (run.queue.sequence (plan.scheduled k)).flatten.take size
  whole : run.window.length = size
  corrupt : ∃ cause, run.result = .error cause ∧ cause.isMismatch = false

/-- Packets that come after the attempt change nothing about it. -/
theorem CodecRun.FailedAs.append {plan : RetryPlan} {size k : Nat} {held later : List Bytes} {run : CodecRun}
    (failed : run.FailedAs plan size held later k) (before : k ≤ later.length) (more : List Bytes) :
    run.FailedAs plan size held (later ++ more) k where
  size_eq := failed.size_eq
  order := failed.order
  packets := by rw [List.take_append_of_le_length before, failed.packets]
  window := failed.window
  whole := failed.whole
  corrupt := failed.corrupt

theorem CodecRun.FailedAs.undecoded {plan : RetryPlan} {size k : Nat} {held later : List Bytes} {run : CodecRun}
    (failed : run.FailedAs plan size held later k) : run.decoded = false := by
  obtain ⟨cause, result, -⟩ := failed.corrupt
  rw [decoded, result]
  rfl

/-- Runs behind which the next frame begins: each has a smaller number than that frame. -/
def Closed (runs : List CodecRun) : Prop :=
  ∀ a ∈ numbered runs, a.seq < runs.countP CodecRun.decoded

theorem closed_concat {run : CodecRun} (decoded : run.decoded = true) (runs : List CodecRun) :
    Closed (runs ++ [run]) := by
  intro a member
  rw [countP_concat, if_pos decoded]
  rw [numbered_concat] at member
  rcases List.mem_append.1 member with earlier | last
  · exact Nat.lt_succ_of_le (seq_le_of_mem earlier)
  · rw [List.mem_singleton.1 last]
    exact Nat.lt_succ_self _

/-- Runs that fail have the number of the frame that is read again. -/
theorem numbered_append_failed (earlier : List CodecRun) {failed : List CodecRun}
    (undecoded : ∀ run ∈ failed, run.decoded = false) :
    numbered (earlier ++ failed) =
      numbered earlier ++ failed.map (·.attempt (earlier.countP CodecRun.decoded)) := by
  have none (i : Nat) : (failed.take i).countP CodecRun.decoded = 0 := by
    rw [List.countP_eq_zero]
    intro run member
    rw [undecoded run (List.mem_of_mem_take member)]
    exact Bool.false_ne_true
  simp only [numbered_append, none, Nat.add_zero]
  congr 1
  exact List.mapIdx_eq_iff.2 fun i => List.getElem?_map

/-- A log with room for the failed runs ends with them, and has runs on earlier frames in front. -/
theorem Journal.Kept.ends_with_failed {codec : RecordCodec} {limit : Nat} {j : Journal}
    {earlier failed : List CodecRun} (kept : Kept codec limit j) (runs : j.runs = earlier ++ failed)
    (closed : Closed earlier) (undecoded : ∀ run ∈ failed, run.decoded = false) (room : failed.length ≤ limit) :
    j.reader.frames = earlier.countP CodecRun.decoded ∧
      ∃ old, j.reader.log.attempts = old ++ failed.map (·.attempt (earlier.countP CodecRun.decoded)) ∧
        ∀ a ∈ old, a.seq < earlier.countP CodecRun.decoded := by
  have none : failed.countP CodecRun.decoded = 0 := by
    rw [List.countP_eq_zero]
    intro run member
    rw [undecoded run member]
    exact Bool.false_ne_true
  constructor
  · rw [kept.frames, runs, List.countP_append, none, Nat.add_zero]
  · have log := kept.log
    have split := numbered_append_failed earlier undecoded
    have fits : (numbered j.runs).length - limit ≤ (numbered earlier).length := by
      rw [length_numbered, length_numbered, runs, List.length_append]
      omega
    rw [← runs] at split
    refine ⟨(numbered earlier).drop ((numbered j.runs).length - limit), ?_, ?_⟩
    · rw [log, kept.limit_eq, ← List.drop_append_of_le_length fits, ← split]
    · intro a member
      exact closed a (List.mem_of_mem_drop member)

/-- The first attempt was on the bytes at the front of all packets, whatever came later. -/
theorem CodecRun.FailedAs.window_first {plan : RetryPlan} {size : Nat} {held later : List Bytes} {run : CodecRun}
    (failed : run.FailedAs plan size held later 0) (more : List Bytes) :
    run.window = (held ++ more).flatten.take size := by
  have packets : run.queue.packets = held := by
    rw [failed.packets, List.take_zero, List.filter_nil, List.append_nil]
  have window : run.window = held.flatten.take size := by
    rw [failed.window, ← packets]
    rfl
  have enough : size ≤ held.flatten.length := by
    have whole := failed.whole
    rw [window, List.length_take] at whole
    omega
  rw [window, List.flatten_append, List.take_append_of_le_length enough]

theorem PacketQueue.packets_of_write {q q' : PacketQueue} {packet : Bytes} (written : q.write packet = .ok q') :
    q'.packets = q.packets ++ [packet].filter (!·.isEmpty) := by
  unfold write at written
  split at written
  · rename_i empty
    cases written
    rw [List.filter_singleton, empty]
    exact (List.append_nil _).symm
  · rename_i some
    split at written
    · cases written
    · cases written
      rw [List.filter_singleton, Bool.eq_false_of_not_eq_true some]
      rfl

/-- A packet goes behind those that wait and changes nothing else. -/
theorem FrameReader.queue_of_write {r r' : FrameReader} {packet : Bytes} (written : r.write packet = .ok r') :
    r'.pending = r.pending ∧ r'.queue.packets = r.queue.packets ++ [packet].filter (!·.isEmpty) := by
  unfold write at written
  split at written
  · cases written
  · rename_i queue accepted
    cases written
    exact ⟨rfl, PacketQueue.packets_of_write accepted⟩

namespace Transfer

variable {σ : Type} [RowSink σ] {t : Transfer σ} {plan : RetryPlan} {limit : Nat} {fed : List Bytes}
  {passes : List (Transfer σ)}

/-! ## The runs and the bytes of passes -/

omit [RowSink σ] in
/-- The run of the codec that a pass makes. -/
def codecRun? (t : Transfer σ) : Option CodecRun :=
  if t.limitReached then none else t.reader.codecRun? t.codec t.retries.order?

omit [RowSink σ] in
/-- The bytes that a pass uses up. -/
def spent (t : Transfer σ) : Bytes :=
  if t.limitReached then [] else t.reader.spent t.retries.order? t.step.outcome

omit [RowSink σ] in
theorem runs_concat (passes : List (Transfer σ)) (t : Transfer σ) :
    (passes ++ [t]).filterMap codecRun? = passes.filterMap codecRun? ++ t.codecRun?.toList := by
  rw [List.filterMap_append, List.filterMap_cons, List.filterMap_nil]
  cases t.codecRun? <;> rfl

/-- A transfer after passes: its reader has all their runs behind it, and the bytes of the packets that were fed are
    those that the passes used up and those still unread. -/
structure Traced (limit : Nat) (t : Transfer σ) (fed : List Bytes) (passes : List (Transfer σ)) : Prop where
  journal : Journal.Kept t.codec limit ⟨t.reader, passes.filterMap codecRun?⟩
  ledger : Ledger.Balanced ⟨t.reader, fed.flatten, passes.flatMap spent⟩

theorem reader_turn (t : Transfer σ) :
    t.turn.transfer.reader = if t.limitReached then t.reader else t.step.reader := by
  have ends := t.turn_cases
  generalize t.turn = turn at ends ⊢
  cases ends with
  | limit reached events =>
      obtain ⟨sink, -, phase, -, finished, -⟩ := t.transfer_finish
      rw [reached, if_pos rfl, Turn.transfer, Reply.transfer_after, finished]
  | ended below outcome events =>
      obtain ⟨sink, -, phase, -, finished, -⟩ := t.decoded.transfer_finish
      rw [below, if_neg Bool.false_ne_true, Turn.transfer, Reply.transfer_after, finished]
      rfl
  | starved below outcome events => rw [below]; rfl
  | broken cause below outcome events => rw [below]; rfl
  | unknownColumn record cause below outcome unknown events => rw [below]; rfl
  | refused record values sink cause below outcome converted answer events => rw [below]; rfl
  | written record values sink below outcome converted answer events => rw [below]; rfl
  | retry cause below outcome within events => rw [below]; rfl
  | exhausted cause below outcome spent events => rw [below]; rfl

theorem codec_turn (t : Transfer σ) : t.turn.transfer.codec = t.codec := by
  cases turn : t.turn with
  | stop reply => exact congrArg Setup.codec (kept_of_stop turn).2
  | again t' events => exact congrArg Setup.codec (setup_of_again turn)

omit [RowSink σ] in
theorem Traced.write (traced : Traced limit t fed passes) {packet : Bytes} {reader : FrameReader}
    (written : t.reader.write packet = .ok reader) :
    Traced limit ({ t with reader } : Transfer σ) (fed ++ [packet]) passes where
  journal := by
    have kept := traced.journal.write packet
    simp only [Journal.call, FrameReader.use, written] at kept
    exact kept
  ledger := by
    have balanced : (Ledger.call t.codec ⟨t.reader, fed.flatten, passes.flatMap spent⟩ (.write packet)).Balanced :=
      traced.ledger.call (.write packet)
    simp only [Ledger.call, written] at balanced
    rw [List.flatten_append, List.flatten_singleton]
    exact balanced

/-- A pass adds its run and its bytes. -/
theorem Traced.turn (traced : Traced limit t fed passes) : Traced limit t.turn.transfer fed (passes ++ [t]) := by
  have reader := t.reader_turn
  cases reached : t.limitReached with
  | true =>
      have run : t.codecRun? = none := if_pos reached
      have bytes : t.spent = [] := if_pos reached
      rw [reached, if_pos rfl] at reader
      constructor
      · rw [reader, codec_turn, runs_concat, run, Option.toList_none, List.append_nil]
        exact traced.journal
      · rw [reader, List.flatMap_append, List.flatMap_singleton, bytes, List.append_nil]
        exact traced.ledger
  | false =>
      have run : t.codecRun? = t.reader.codecRun? t.codec t.retries.order? := by rw [codecRun?, reached]; rfl
      have bytes : t.spent = t.reader.spent t.retries.order? t.step.outcome := by rw [spent, reached]; rfl
      rw [reached, if_neg Bool.false_ne_true] at reader
      constructor
      · rw [reader, codec_turn, runs_concat, run]
        exact traced.journal.next t.retries.order?
      · rw [reader, List.flatMap_append, List.flatMap_singleton, bytes]
        exact traced.ledger.call (.next t.retries.order?)

/-! ## The attempts on the frame at hand -/

/-- The runs that failed on the frame at hand, one for each failure that is counted. Their payload waits in front of
    the packets that came later. -/
structure Attempting (plan : RetryPlan) (t : Transfer σ) (later : List Bytes) (failed : List CodecRun) : Prop where
  count : failed.length = t.retries.failures
  waiting : 0 < t.retries.failures → ∃ size held, t.reader.pending = some size ∧
    t.reader.queue.packets = held ++ later.filter (!·.isEmpty) ∧
    ∀ k run, failed[k]? = some run → CodecRun.FailedAs plan size held later k run

omit [RowSink σ] in
theorem Attempting.of_no_failures (none : t.retries.failures = 0) : Attempting plan t [] [] :=
  ⟨none.symm, fun failed => absurd none (Nat.ne_of_gt failed)⟩

omit [RowSink σ] in
/-- A packet joins those that came later. -/
theorem Attempting.write {later : List Bytes} {failed : List CodecRun} {reader : FrameReader} {packet : Bytes}
    (attempting : Attempting plan t later failed) (length : failed.length = later.length + 1)
    (written : t.reader.write packet = .ok reader) :
    Attempting plan ({ t with reader } : Transfer σ) (later ++ [packet]) failed where
  count := attempting.count
  waiting := by
    intro failures
    obtain ⟨size, held, pending, packets, attempts⟩ := attempting.waiting failures
    obtain ⟨same, added⟩ := FrameReader.queue_of_write written
    refine ⟨size, held, same.trans pending, ?_, ?_⟩
    · rw [List.filter_append, ← List.append_assoc, ← packets]
      exact added
    · intro k run found
      have bound : k < failed.length := (List.getElem?_eq_some_iff.1 found).1
      exact (attempts k run found).append (by omega) [packet]

omit [RowSink σ] in
/-- A step that finds the payload in full makes the run of its pass. -/
theorem Sound.ran {given : Outcome} (sound : Sound plan t) (below : t.limitReached = false)
    (outcome : t.step.outcome = .ok given) (whole : given ≠ .needMore) :
    ∃ run, t.codecRun? = some run ∧
      t.reader.Ran t.codec t.retries.order? run t.step.outcome t.step.reader := by
  have ran := sound.reading.ran_or_idled sound.reader
  rw [codecRun?, below, if_neg Bool.false_ne_true]
  cases made : t.reader.codecRun? t.codec t.retries.order? with
  | none =>
      rw [made] at ran
      rcases ran.outcome with more | zero
      · rw [outcome] at more
        cases more
        exact absurd rfl whole
      · rw [outcome] at zero
        cases zero
  | some run =>
      rw [made] at ran
      exact ⟨run, rfl, ran⟩

omit [RowSink σ] in
theorem Sound.codecRun?_of_starved (sound : Sound plan t) (outcome : t.step.outcome = .ok .needMore) :
    t.codecRun? = none := by
  have ran := sound.reading.ran_or_idled sound.reader
  rw [codecRun?, ite_eq_left_iff]
  intro _
  cases made : t.reader.codecRun? t.codec t.retries.order? with
  | none => rfl
  | some run =>
      rw [made] at ran
      exact absurd (ran.outcome.symm.trans outcome) run.outcome_ne_needMore

omit [RowSink σ] in
/-- The reader itself gives nothing up. -/
theorem Sound.step_ne_unrecoverable (sound : Sound plan t) (n : Nat) (cause : SchemaError) :
    t.step.outcome ≠ .error (.unrecoverable n cause) := by
  intro outcome
  have read := sound.reading
  rw [outcome] at read
  rcases read.cause with zero | ⟨cause', schema⟩
  · cases zero
  · cases schema

omit [RowSink σ] in
/-- One more attempt fails on the payload that waits, and leaves it there. -/
theorem Attempting.corrupt {u : Transfer σ} {later : List Bytes} {failed : List CodecRun} {cause : SchemaError}
    (attempting : Attempting plan t later failed) (length : failed.length = later.length) (sound : Sound plan t)
    (below : t.limitReached = false) (outcome : t.step.outcome = .ok (.corrupt cause))
    (reader : u.reader = t.step.reader) (retries : u.retries = t.retries.fail) :
    ∃ run, t.codecRun? = some run ∧ run.result = .error cause ∧ Attempting plan u later (failed ++ [run]) := by
  have whole : Outcome.corrupt cause ≠ .needMore := nofun
  obtain ⟨run, made, ran⟩ := sound.ran below outcome whole
  obtain ⟨result, mendable⟩ := CodecRun.result_of_corrupt (ran.outcome.symm.trans outcome)
  have undecoded : run.decoded = false := by
    rw [CodecRun.decoded, result]
    rfl
  obtain ⟨queue, pending⟩ := ran.left undecoded
  -- At the first attempt all packets that wait are held; at a later one the frame is known.
  have held : ∃ held, run.queue.packets = held ++ later.filter (!·.isEmpty) ∧
      ∀ k run', failed[k]? = some run' → CodecRun.FailedAs plan run.size held later k run' := by
    rcases Nat.eq_zero_or_pos t.retries.failures with none | some
    · have noFailed : failed = [] := List.eq_nil_of_length_eq_zero (attempting.count.trans none)
      have noLater : later = [] := List.eq_nil_of_length_eq_zero (by rw [← length, noFailed]; rfl)
      refine ⟨run.queue.packets, ?_, ?_⟩
      · rw [noLater, List.filter_nil, List.append_nil]
      · rw [noFailed]
        exact nofun
    · obtain ⟨size, held, waits, packets, attempts⟩ := attempting.waiting some
      obtain ⟨rfl, same⟩ := ran.of_pending waits
      exact ⟨held, same ▸ packets, attempts⟩
  obtain ⟨held, packets, attempts⟩ := held
  refine ⟨run, made, result, ?_, ?_⟩
  · rw [List.length_append, List.length_singleton, attempting.count, retries, Retries.failures_fail]
  · intro _
    refine ⟨run.size, held, ?_, ?_, ?_⟩
    · rw [reader, pending]
    · rw [reader, queue, packets]
    · intro k run' found
      have order : run.order? = plan.scheduled failed.length := by
        rw [ran.order, Retries.order?_eq, sound.plan_eq, attempting.count]
      rcases Nat.lt_or_ge k failed.length with earlier | last
      · rw [List.getElem?_append_left earlier] at found
        exact attempts k run' found
      · have bound := (List.getElem?_eq_some_iff.1 found).1
        rw [List.length_append, List.length_singleton] at bound
        obtain rfl : k = failed.length := by omega
        rw [List.getElem?_concat_length, Option.some.injEq] at found
        subst found
        constructor
        · rfl
        · exact order
        · rw [length, List.take_length, packets]
        · rw [CodecRun.window, PacketQueue.peek_eq_take, order]
        · exact ran.whole
        · exact ⟨cause, result, mendable⟩

/-- A transfer after packets and passes: all runs but those that failed on the frame at hand are behind it, and `n` of
    the packets came after the first of these. -/
structure Tracked (plan : RetryPlan) (limit : Nat) (t : Transfer σ) (fed : List Bytes) (passes : List (Transfer σ))
    (n : Nat) : Prop where
  sound : Sound plan t
  traced : Traced limit t fed passes
  attempting : ∃ earlier failed start later, passes.filterMap codecRun? = earlier ++ failed ∧ Closed earlier ∧
    fed = start ++ later ∧ later.length = n ∧ Attempting plan t later failed

namespace Tracked

omit [RowSink σ] in
/-- Without failures all that came before is behind. -/
theorem of_no_failures (sound : Sound plan t) (traced : Traced limit t fed passes)
    (closed : Closed (passes.filterMap codecRun?)) (none : t.retries.failures = 0) :
    Tracked plan limit t fed passes 0 :=
  ⟨sound, traced, passes.filterMap codecRun?, [], fed, [], (List.append_nil _).symm, closed,
    (List.append_nil _).symm, rfl, .of_no_failures none⟩

omit [RowSink σ] in
theorem closed_of_no_failures {n : Nat} (tracked : Tracked plan limit t fed passes n)
    (none : t.retries.failures = 0) : Closed (passes.filterMap codecRun?) := by
  obtain ⟨earlier, failed, start, later, runs, closed, -, -, attempting⟩ := tracked.attempting
  have noFailed : failed = [] := List.eq_nil_of_length_eq_zero (attempting.count.trans none)
  rw [noFailed, List.append_nil] at runs
  rwa [runs]

omit [RowSink σ] in
/-- Between two packets the first attempt is one ahead of the packets that came later. -/
theorem write {packet : Bytes} {reader : FrameReader}
    (tracked : Tracked plan limit t fed passes (t.retries.failures - 1))
    (sound : Sound plan ({ t with reader } : Transfer σ)) (written : t.reader.write packet = .ok reader) :
    Tracked plan limit ({ t with reader } : Transfer σ) (fed ++ [packet]) passes t.retries.failures := by
  have traced := tracked.traced.write written
  rcases Nat.eq_zero_or_pos t.retries.failures with none | some
  · rw [none]
    exact of_no_failures sound traced (tracked.closed_of_no_failures none) none
  · obtain ⟨earlier, failed, start, later, runs, closed, split, length, attempting⟩ := tracked.attempting
    have count := attempting.count
    refine ⟨sound, traced, earlier, failed, start, later ++ [packet], runs, closed, ?_, ?_, ?_⟩
    · rw [split, List.append_assoc]
    · rw [List.length_append, List.length_singleton]
      omega
    · exact attempting.write (by omega) written

omit [RowSink σ] in
/-- A failed attempt joins those before it. -/
theorem corrupt {u : Transfer σ} {cause : SchemaError}
    (tracked : Tracked plan limit t fed passes t.retries.failures) (below : t.limitReached = false)
    (outcome : t.step.outcome = .ok (.corrupt cause)) (sound : Sound plan u)
    (traced : Traced limit u fed (passes ++ [t])) (reader : u.reader = t.step.reader)
    (retries : u.retries = t.retries.fail) :
    Tracked plan limit u fed (passes ++ [t]) (u.retries.failures - 1) := by
  obtain ⟨earlier, failed, start, later, runs, closed, split, length, attempting⟩ := tracked.attempting
  obtain ⟨run, made, -, attempting'⟩ :=
    attempting.corrupt (attempting.count.trans length.symm) tracked.sound below outcome reader retries
  refine ⟨sound, traced, earlier, failed ++ [run], start, later, ?_, closed, split, ?_, attempting'⟩
  · rw [runs_concat, runs, made, Option.toList_some, List.append_assoc]
  · rw [retries, Retries.failures_fail, length]
    rfl

end Tracked

/-- More is wanted, or the frame at hand is given up: its payload is still there. -/
def Unfinished (result : Except TransferError Progress) : Prop :=
  result = .ok .more ∨ ∃ n cause, result = .error (.frame (.unrecoverable n cause))

theorem unfinished_error {error : TransferError} :
    Unfinished (.error error) ↔ ∃ n cause, error = .frame (.unrecoverable n cause) := by
  constructor
  · rintro (more | ⟨n, cause, gaveUp⟩)
    · cases more
    · exact ⟨n, cause, Except.error.inj gaveUp⟩
  · rintro ⟨n, cause, rfl⟩
    exact .inr ⟨n, cause, rfl⟩

theorem not_unfinished_finish (t : Transfer σ) : ¬ Unfinished t.finish.result := by
  rintro (more | ⟨n, cause, gaveUp⟩)
  · rcases t.finish_cases with ⟨sink, -, whole⟩ | ⟨sink, cause, -, refused⟩
    · rw [whole] at more
      cases more
    · rw [refused] at more
      cases more
  · exact t.finish_plain n cause gaveUp

namespace Tracked

theorem of_again {t' : Transfer σ} {events : List Event}
    (tracked : Tracked plan limit t fed passes t.retries.failures) (turn : t.turn = .again t' events) :
    Tracked plan limit t' fed (passes ++ [t]) t'.retries.failures := by
  have traced := tracked.traced.turn
  have sound := (tracked.sound.of_again turn).1
  rw [turn] at traced
  cases case_of_turn turn with
  | written record values sink below outcome converted answer events =>
      have whole : Outcome.frame record ≠ .needMore := nofun
      obtain ⟨run, made, ran⟩ := tracked.sound.ran below outcome whole
      have decoded : run.decoded = true := CodecRun.decoded_of_frame (ran.outcome.symm.trans outcome)
      refine .of_no_failures sound traced ?_ rfl
      rw [runs_concat, made]
      exact closed_concat decoded _

theorem of_stop {reply : Reply σ} (tracked : Tracked plan limit t fed passes t.retries.failures)
    (running : t.phase = .running) (turn : t.turn = .stop reply) (unfinished : Unfinished reply.result) :
    Tracked plan limit reply.transfer fed (passes ++ [t]) (reply.transfer.retries.failures - 1) := by
  have traced := tracked.traced.turn
  have sound := tracked.sound.of_stop running turn
  rw [turn] at traced
  cases case_of_turn turn with
  | limit reached events => exact absurd unfinished t.not_unfinished_finish
  | ended below outcome events => exact absurd unfinished t.decoded.not_unfinished_finish
  | starved below outcome events =>
      have none := tracked.sound.no_failures_of_starved running outcome
      have idle := tracked.sound.codecRun?_of_starved outcome
      have same : t.stepped.retries.failures = 0 := none
      rw [same]
      refine of_no_failures sound traced ?_ none
      rw [runs_concat, idle, Option.toList_none, List.append_nil]
      exact tracked.closed_of_no_failures none
  | retry cause below outcome within events => exact tracked.corrupt below outcome sound traced rfl rfl
  | exhausted cause below outcome spent events => exact tracked.corrupt below outcome sound traced rfl rfl
  | broken cause below outcome events =>
      obtain ⟨n, cause', gaveUp⟩ := unfinished_error.1 unfinished
      cases gaveUp
      exact absurd outcome (tracked.sound.step_ne_unrecoverable n cause')
  | unknownColumn record cause below outcome unknown events =>
      obtain ⟨n, cause', gaveUp⟩ := unfinished_error.1 unfinished
      cases gaveUp
  | refused record values sink cause below outcome converted answer events =>
      obtain ⟨n, cause', gaveUp⟩ := unfinished_error.1 unfinished
      cases gaveUp

theorem advance (tracked : Tracked plan limit t fed passes t.retries.failures) (running : t.phase = .running)
    (unfinished : Unfinished t.advance.result) :
    Tracked plan limit t.advance.transfer fed (passes ++ t.passes) (t.advance.transfer.retries.failures - 1) := by
  induction t using advance_induction generalizing passes with
  | stop t reply turn =>
      rw [advance_of_stop turn] at unfinished ⊢
      rw [passes_of_stop turn]
      exact tracked.of_stop running turn unfinished
  | again t t' events turn ih =>
      rw [advance_of_again turn] at unfinished ⊢
      rw [passes_of_again turn, ← List.append_assoc]
      exact ih (tracked.of_again turn) ((phase_of_again turn).trans running) unfinished

theorem feed {packet : Bytes} (tracked : Tracked plan limit t fed passes (t.retries.failures - 1))
    (running : t.phase = .running) (unfinished : Unfinished (t.feed packet).result) :
    Tracked plan limit (t.feed packet).transfer (fed ++ [packet]) (passes ++ t.passesOf packet)
      ((t.feed packet).transfer.retries.failures - 1) := by
  rcases tracked.sound.feed_cases running packet with ⟨queue, accepted, advances, sound, -, -⟩ | ⟨-, full, -⟩
  · rw [advances] at unfinished
    rw [advances, passesOf_of_running running, accepted]
    exact (tracked.write sound accepted).advance running unfinished
  · rw [full] at unfinished
    obtain ⟨n, cause, gaveUp⟩ := unfinished_error.1 unfinished
    cases gaveUp

theorem feeds {packets : List Bytes} (tracked : Tracked plan limit t fed passes (t.retries.failures - 1))
    (running : (t.feeds packets).transfer.phase = .running) :
    Tracked plan limit (t.feeds packets).transfer (fed ++ packets) (passes ++ t.passesOver packets)
      ((t.feeds packets).transfer.retries.failures - 1) := by
  induction packets generalizing t fed passes with
  | nil =>
      rw [passesOver, List.append_nil, List.append_nil]
      exact tracked
  | cons packet rest ih =>
      rw [feeds_cons] at running ⊢
      -- A transfer that is running in the end has been running all the time.
      have between : (t.feed packet).transfer.phase = .running := by
        by_contra ended
        rw [transfer_feeds_of_ended ended] at running
        exact ended running
      have before : t.phase = .running := by
        by_contra ended
        rw [(feed_of_ended ended packet).1] at between
        exact ended between
      have more := (agrees_feed t packet).more between
      have later := ih (tracked.feed before (.inl more)) running
      rw [List.append_assoc, List.append_assoc] at later
      exact later

end Tracked

/-! ## The last attempt -/

/-- A frame is given up when its last attempt under the plan has failed. -/
theorem Sound.gaveUp_of_advance {n : Nat} {cause : SchemaError} (sound : Sound plan t) (running : t.phase = .running)
    (gaveUp : t.advance.result = .error (.frame (.unrecoverable n cause))) :
    n = plan.maxAttempts ∧ t.advance.transfer.retries.failures = plan.maxAttempts ∧
      ∃ earlier p run, t.passes = earlier ++ [p] ∧ p.codecRun? = some run ∧ run.result = .error cause := by
  induction t using advance_induction with
  | stop t reply turn =>
      rw [advance_of_stop turn] at gaveUp ⊢
      rw [passes_of_stop turn]
      cases case_of_turn turn with
      | exhausted cause' below outcome spent events =>
          have whole : Outcome.corrupt cause' ≠ .needMore := nofun
          obtain ⟨run, made, ran⟩ := sound.ran below outcome whole
          obtain ⟨result, -⟩ := CodecRun.result_of_corrupt (ran.outcome.symm.trans outcome)
          have budget := sound.budget running
          rw [sound.plan_eq] at spent
          have all : t.retries.failures + 1 = plan.maxAttempts :=
            congrArg (· + 1) (Nat.le_antisymm budget spent)
          cases gaveUp
          exact ⟨all, all, [], t, run, rfl, made, result⟩
      | limit reached events => exact absurd gaveUp (t.finish_plain n cause)
      | ended below outcome events => exact absurd gaveUp (t.decoded.finish_plain n cause)
      | starved below outcome events => cases gaveUp
      | unknownColumn record cause' below outcome unknown events => cases gaveUp
      | refused record values sink cause' below outcome converted answer events => cases gaveUp
      | retry cause' below outcome within events => cases gaveUp
      | broken cause' below outcome events =>
          cases gaveUp
          exact absurd outcome (sound.step_ne_unrecoverable n cause)
  | again t t' events turn ih =>
      rw [advance_of_again turn] at gaveUp ⊢
      obtain ⟨sound', phase⟩ := sound.of_again turn
      obtain ⟨attempts, failures, earlier, p, run, passes, made, result⟩ :=
        ih sound' (phase.trans running) gaveUp
      refine ⟨attempts, failures, t :: earlier, p, run, ?_, made, result⟩
      rw [passes_of_again turn, passes]
      rfl

theorem Sound.gaveUp_of_feed {n : Nat} {cause : SchemaError} {packet : Bytes} (sound : Sound plan t)
    (running : t.phase = .running) (gaveUp : (t.feed packet).result = .error (.frame (.unrecoverable n cause))) :
    n = plan.maxAttempts ∧ (t.feed packet).transfer.retries.failures = plan.maxAttempts ∧
      ∃ earlier p run, t.passesOf packet = earlier ++ [p] ∧ p.codecRun? = some run ∧ run.result = .error cause := by
  rcases sound.feed_cases running packet with ⟨queue, accepted, advances, sound', -, -⟩ | ⟨-, full, -⟩
  · rw [advances] at gaveUp
    rw [advances, passesOf_of_running running, accepted]
    exact sound'.gaveUp_of_advance running gaveUp
  · rw [full] at gaveUp
    cases gaveUp

/-- The packet that gave a frame up found the transfer running. -/
theorem exists_feed_of_gaveUp {n : Nat} {cause : SchemaError} {packets : List Bytes}
    (gaveUp : .error (.frame (.unrecoverable n cause)) ∈ (t.feeds packets).results) :
    ∃ before packet after, packets = before ++ packet :: after ∧ (t.feeds before).transfer.phase = .running ∧
      ((t.feeds before).transfer.feed packet).result = .error (.frame (.unrecoverable n cause)) := by
  induction packets generalizing t with
  | nil => cases gaveUp
  | cons packet rest ih =>
      rw [feeds_cons] at gaveUp
      rcases List.mem_cons.1 gaveUp with here | later
      · have running : t.phase = .running := by
          by_contra ended
          rcases (feed_of_ended ended packet).2 with complete | closed
          · rw [complete] at here
            cases here
          · rw [closed] at here
            cases here
        exact ⟨[], packet, rest, rfl, running, here.symm⟩
      · obtain ⟨before, packet', after, rfl, running, failed⟩ := ih later
        exact ⟨packet :: before, packet', after, rfl, running, failed⟩

/-- What is behind the packet that ended a transfer makes no difference. -/
theorem feeds_of_ended_at {before : List Bytes} {packet : Bytes} (after : List Bytes)
    (ended : ((t.feeds before).transfer.feed packet).transfer.phase ≠ .running) :
    (t.feeds (before ++ packet :: after)).transfer = ((t.feeds before).transfer.feed packet).transfer := by
  rw [feeds_append, feeds_cons, transfer_feeds_of_ended ended]

omit [RowSink σ] in
/-- A failed transfer has reported with the answer that was an error, and only then. -/
theorem Answered.reports_of_error {replies : List (Reply σ)} {last : Transfer σ} (answered : Answered replies last)
    (ended : last.phase = .failed) {reply : Reply σ} {error : TransferError} (member : reply ∈ replies)
    (failed : reply.result = .error error) (opened : error ≠ .closed) :
    reply.reports = [last.report error] ∧ replies.flatMap Reply.reports = [last.report error] := by
  obtain ⟨other, among, error', answer, report, only⟩ := answered.failed ended
  have final := List.pairwise_iff_getElem.1 answered.final
  obtain ⟨i, bound, rfl⟩ := List.getElem_of_mem member
  obtain ⟨j, bound', rfl⟩ := List.getElem_of_mem among
  rcases Nat.lt_trichotomy i j with earlier | rfl | later
  · obtain ⟨-, -, none⟩ := (final i j bound bound' earlier).2 error failed
    rw [Reply.reports, none] at report
    cases report
  · rw [failed] at answer
    cases answer
    exact ⟨report, only⟩
  · obtain ⟨closed, -, -⟩ := (final j i bound' bound later).2 error' answer
    rw [failed] at closed
    cases closed
    exact absurd rfl opened

/-! ## The report -/

end Transfer

/-- How a frame was given up. -/
structure GivingUp where
  /-- The packets up to the one that led to the last attempt. -/
  fed : List Bytes
  /-- The packets that came when the transfer had failed. -/
  ignored : List Bytes
  /-- The announced length of the frame. -/
  size : Nat
  /-- The packets behind the length byte at the first attempt. -/
  held : List Bytes
  /-- The packets that were fed after the first attempt. -/
  later : List Bytes
  /-- The runs of the codec on the frames before. -/
  earlier : List CodecRun
  /-- The runs on the frame, first attempt first. -/
  fatal : List CodecRun

namespace Transfer

variable {σ : Type} [RowSink σ] {t : Transfer σ} {plan : RetryPlan} {limit : Nat}

/-- A transfer gives a frame up over packets: under each order of the plan an attempt on it has failed, and these are
    the last runs of its codec. -/
structure GivesUp (t : Transfer σ) (packets : List Bytes) (cause : SchemaError) (g : GivingUp) : Prop where
  packets_eq : packets = g.fed ++ g.ignored
  ends : (t.feeds packets).transfer = (t.feeds g.fed).transfer
  later : g.later <:+ g.fed
  /-- Every packet behind the first attempt has led to one more. -/
  length_later : g.later.length + 1 = g.fatal.length
  runs : (t.passesOver g.fed).filterMap codecRun? = g.earlier ++ g.fatal
  count : g.fatal.length = t.retries.plan.maxAttempts
  attempt : ∀ k run, g.fatal[k]? = some run → CodecRun.FailedAs t.retries.plan g.size g.held g.later k run
  last : g.fatal.getLast?.map (·.result) = some (.error cause)

/-- A report shows how a frame was given up. -/
structure Shows (t : Transfer σ) (report : Report) (g : GivingUp) : Prop where
  failures : report.failures = g.fatal.length
  /-- The log ends with the attempts on the frame, and what is in front of them was on earlier frames. -/
  attempts : ∃ old, report.attempts = old ++ g.fatal.map (·.attempt (g.earlier.countP CodecRun.decoded)) ∧
    ∀ a ∈ old, a.seq < g.earlier.countP CodecRun.decoded
  /-- The attempts have taken no packet and moved none. -/
  packets : report.packets = g.held ++ g.later.filter (!·.isEmpty)
  /-- With the length byte they are all that was not used up. -/
  unread : g.fed.flatten.Perm
    ((t.passesOver g.fed).flatMap spent ++ UInt8.ofNat g.size :: report.packets.flatten)
  /-- The first attempt was on the bytes at their front. -/
  first : g.fatal.head?.map (·.window) = some (report.packets.flatten.take g.size)

theorem Tracked.shows {u : Transfer σ} {fed ignored : List Bytes} {cause : SchemaError}
    (tracked : Tracked plan limit u fed (t.passesOver fed) (u.retries.failures - 1))
    (plan_eq : t.retries.plan = plan) (failures : u.retries.failures = plan.maxAttempts)
    (remembered : plan.maxAttempts ≤ limit)
    (last : ((t.passesOver fed).filterMap codecRun?).getLast?.map (·.result) = some (.error cause))
    (ends : (t.feeds (fed ++ ignored)).transfer = (t.feeds fed).transfer) (error : TransferError) :
    ∃ g, t.GivesUp (fed ++ ignored) cause g ∧ t.Shows (u.report error) g ∧
      u.reader.frames = g.earlier.countP CodecRun.decoded := by
  obtain ⟨earlier, fatal, start, later, runs, closed, split, length, attempting⟩ := tracked.attempting
  have count : fatal.length = plan.maxAttempts := attempting.count.trans failures
  have positive : 0 < plan.maxAttempts := Nat.succ_pos _
  obtain ⟨size, held, pending, packets, attempt⟩ := attempting.waiting (failures ▸ positive)
  have undecoded : ∀ run ∈ fatal, run.decoded = false := by
    intro run member
    obtain ⟨k, found⟩ := List.getElem?_of_mem member
    exact (attempt k run found).undecoded
  obtain ⟨frames, old, attempts, before⟩ :=
    tracked.traced.journal.ends_with_failed runs closed undecoded (count ▸ remembered)
  obtain ⟨first, others, fatal_eq⟩ := List.exists_cons_of_length_pos (count ▸ positive)
  have unread := tracked.traced.ledger.bytes
  rw [FrameReader.unread_of_pending pending] at unread
  refine ⟨⟨fed, ignored, size, held, later, earlier, fatal⟩, ?_, ?_, frames⟩
  · constructor
    · rfl
    · exact ends
    · exact ⟨start, split.symm⟩
    · rw [length, failures, count]
      exact Nat.sub_add_cancel positive
    · exact runs
    · rw [plan_eq, count]
    · rw [plan_eq]
      exact attempt
    · rw [runs, fatal_eq, List.getLast?_append, List.getLast?_cons, Option.some_or, ← List.getLast?_cons] at last
      rw [fatal_eq, last]
  · constructor
    · exact failures.trans count.symm
    · exact ⟨old, attempts, before⟩
    · exact packets
    · exact unread
    · rw [fatal_eq, List.head?_cons, Option.map_some]
      have window := (attempt 0 first (by rw [fatal_eq]; rfl)).window_first (later.filter (!·.isEmpty))
      rw [window, ← packets]
      rfl

omit [RowSink σ] in
theorem Tracked.fresh (settings : Settings) (registry : Registry) (codec : RecordCodec) (sink : σ) :
    Tracked settings.plan settings.logLimit (ofCodec settings registry codec sink) [] [] 0 := by
  have traced : Traced settings.logLimit (ofCodec settings registry codec sink) [] [] :=
    ⟨.new codec settings.capacity settings.logLimit,
      (Ledger.InOrder.new settings.capacity settings.logLimit).balanced⟩
  exact .of_no_failures (.fresh settings registry codec sink) traced nofun rfl

theorem passesOver_concat (t : Transfer σ) (before : List Bytes) (packet : Bytes) :
    t.passesOver (before ++ [packet]) = t.passesOver before ++ (t.feeds before).transfer.passesOf packet := by
  rw [passesOver_append, passesOver, passesOver, List.append_nil]

/-- Packets over which a fresh transfer gives a frame up leave it failed, and whatever it reports shows the attempts
    on that frame. -/
theorem feeds_show {settings : Settings} {registry : Registry} {codec : RecordCodec} {sink : σ}
    {packets : List Bytes} {n : Nat} {cause : SchemaError}
    (gaveUp : .error (.frame (.unrecoverable n cause)) ∈
      ((ofCodec settings registry codec sink).feeds packets).results)
    (remembered : settings.plan.maxAttempts ≤ settings.logLimit) (error : TransferError) :
    let t := ofCodec settings registry codec sink
    let last := (t.feeds packets).transfer
    n = settings.plan.maxAttempts ∧ last.phase = .failed ∧
      ∃ g, t.GivesUp packets cause g ∧ t.Shows (last.report error) g ∧
        last.reader.frames = g.earlier.countP CodecRun.decoded := by
  intro t last
  obtain ⟨before, packet, after, rfl, running, failed⟩ := exists_feed_of_gaveUp gaveUp
  have ended := (agrees_feed (t.feeds before).transfer packet).failed failed
  have stopped : ((t.feeds before).transfer.feed packet).transfer.phase ≠ .running := by
    rw [ended]
    exact nofun
  have here (more : List Bytes) := feeds_of_ended_at more stopped
  have tracked := (Tracked.fresh settings registry codec sink).feeds running
  obtain ⟨attempts, failures, earlier, p, run, passes, made, result⟩ := tracked.sound.gaveUp_of_feed running failed
  have given := tracked.feed running (.inr ⟨n, cause, failed⟩)
  rw [List.nil_append, List.nil_append, ← passesOver_concat] at given
  have runs : ((t.passesOver (before ++ [packet])).filterMap codecRun?).getLast?.map (·.result)
      = some (.error cause) := by
    rw [passesOver_concat, passes, ← List.append_assoc, runs_concat, made, Option.toList_some,
      List.getLast?_concat, Option.map_some, result]
  have split : before ++ packet :: after = (before ++ [packet]) ++ after := by
    rw [List.append_assoc, List.singleton_append]
  have last_eq : last = ((t.feeds before).transfer.feed packet).transfer := here after
  rw [last_eq, split]
  refine ⟨attempts, ended, given.shows rfl failures remembered runs ?_ error⟩
  rw [← split, here after, here []]

/-- A run that gives a frame up reports it with that answer, and reports nothing else: the error that was answered,
    the rows that the sink took, the number of attempts, the log of the reader and the packets that wait. If the log
    has room for one more attempt than there are orders, it ends with all attempts on the frame, first attempt first.
    Each was on as many bytes as were announced, read under the order of its turn from the packets that waited then,
    and had the number of the frame; what is in front of them was on earlier frames. The packets of the report are
    those that waited at the first attempt and those that came since, and all bytes that no pass has used up. -/
theorem run_reports_attempts {settings : Settings} {registry : Registry} {codec : RecordCodec} {sink : σ}
    {calls : List Call} {n : Nat} {cause : SchemaError}
    (gaveUp : .error (.frame (.unrecoverable n cause)) ∈
      ((ofCodec settings registry codec sink).run calls).results)
    (remembered : settings.plan.maxAttempts ≤ settings.logLimit) :
    let t := ofCodec settings registry codec ({ sink } : Noted σ)
    let last := (t.run calls).transfer
    let error : TransferError := .frame (.unrecoverable settings.plan.maxAttempts cause)
    (ofCodec settings registry codec sink).run calls
        = { results := (t.replies calls).map (·.result), transfer := last.mapSink Noted.sink } ∧
      n = settings.plan.maxAttempts ∧
      ∃ report, (∃ reply ∈ t.replies calls, reply.result = .error error ∧ reply.reports = [report]) ∧
        (t.replies calls).flatMap Reply.reports = [report] ∧
        report.error = error ∧ report.entries = last.sink.accepted ∧
        ∃ g, t.GivesUp (t.packetsOf calls) cause g ∧ t.Shows report g ∧
          last.reader.frames = g.earlier.countP CodecRun.decoded := by
  intro t last error
  have forgotten : (ofCodec settings registry codec sink).run calls
      = { results := (t.run calls).results, transfer := last.mapSink Noted.sink } :=
    run_mapSink Noted.respects_sink t calls
  rw [forgotten] at gaveUp
  rw [← results_replies] at forgotten
  have opened : TransferError.frame (.unrecoverable n cause) ≠ .closed := nofun
  have same : last = (t.feeds (t.packetsOf calls)).transfer := t.transfer_run calls
  obtain ⟨rfl, ended, g, givesUp, shows, frames⟩ :=
    feeds_show ((error_mem_run_iff opened t calls).1 gaveUp) remembered error
  rw [← same] at ended shows frames
  have answered : Answered (t.replies calls) last := .of_run rfl calls
  have used : SinkUse (t.passesOver (t.packetsOf calls)) last := by
    have fresh : SinkUse [] t := .nil rfl nofun
    have used := fresh.of_feeds rfl (t.packetsOf calls)
    rwa [← transfer_run] at used
  rw [← results_replies] at gaveUp
  obtain ⟨reply, member, answer⟩ := List.mem_map.1 gaveUp
  obtain ⟨report, only⟩ := answered.reports_of_error ended member answer opened
  exact ⟨forgotten, rfl, last.report error, ⟨reply, member, answer, report⟩, only, rfl, used.tally last (.head _),
    g, givesUp, shows, frames⟩

/-- The two packets of a payload come the wrong way round, but the payload is corrupt in either order. -/
theorem run_reports_attempts_swapped :
    let settings : Settings := { plan := ⟨[⟨[1, 0], by decide⟩]⟩ }
    let calls : List Call := [.feed [0x02, 0xff], .feed [0x08], .retryPending]
    let cause : SchemaError := .malformed ⟨some .timestamp, .invalidVarint⟩
    let t := Transfer.new settings .builtin ({ sink := {} } : Noted RowList)
    .error (.frame (.unrecoverable 2 cause)) ∈ ((Transfer.new settings .builtin ({} : RowList)).run calls).results ∧
      settings.plan.maxAttempts ≤ settings.logLimit ∧
      ∃ report, (t.replies calls).flatMap Reply.reports = [report] ∧ report.packets = [[0xff], [0x08]] ∧
        report.attempts.map (·.raw) = [[0xff, 0x08], [0x08, 0xff]] ∧
        ∃ g, t.GivesUp (t.packetsOf calls) cause g ∧ t.Shows report g := by
  intro settings calls cause t
  have gaveUp : .error (.frame (.unrecoverable 2 cause)) ∈
      ((Transfer.new settings .builtin ({} : RowList)).run calls).results := by decide +kernel
  have remembered : settings.plan.maxAttempts ≤ settings.logLimit := by decide
  obtain ⟨-, -, report, -, only, -, -, g, givesUp, shows, -⟩ := run_reports_attempts gaveUp remembered
  have packets : ((t.replies calls).flatMap Reply.reports).map (·.packets) = [[[0xff], [0x08]]] := by
    decide +kernel
  have raws : ((t.replies calls).flatMap Reply.reports).map (·.attempts.map (·.raw)) =
      [[[0xff, 0x08], [0x08, 0xff]]] := by
    decide +kernel
  have reported : (t.replies calls).flatMap Reply.reports = [report] := only
  rw [reported, List.map_singleton, List.singleton_inj] at packets raws
  exact ⟨gaveUp, remembered, report, reported, packets, raws, g, givesUp, shows⟩

end Transfer

end SensorLog
