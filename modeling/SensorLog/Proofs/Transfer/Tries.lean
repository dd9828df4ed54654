import SensorLog.Proofs.Transfer.Invariant

/-!
# The runs of the codec

A `Try` is one run of the codec on a payload: the frame, the packet order, what came of it, and the
count of failures after it. `history` lists the tries of each packet with the answer to it; unlike in
the log of the reader, none is ever lost. `Course` says what a history can look like from an attempt on a
frame on, and every history of a sound transfer does (`history_course`).
-/

namespace SensorLog

/-- What the codec made of a payload. -/
inductive Verdict
  | decoded
  | corrupt (cause : SchemaError)
  | mismatch (cause : SchemaError)
deriving DecidableEq, Repr

/-- The verdict behind the outcome of a step, if the codec ran. -/
def Verdict.ofOutcome? : Except FrameError Outcome → Option Verdict
  | .ok (.frame _) => some .decoded
  | .ok .endOfLog => some .decoded
  | .ok (.corrupt cause) => some (.corrupt cause)
  | .error (.schema cause) => some (.mismatch cause)
  | _ => none

/-- A step that runs the codec remembers it as a run on the frame, and counts the frame if it decoded.
    Any other step leaves count and log alone. -/
theorem FrameReader.Reading.ran {r reader : FrameReader} {codec : RecordCodec}
    {order? : Option PacketOrder} {outcome : Except FrameError Outcome}
    (read : r.Reading codec order? outcome reader) :
    match Verdict.ofOutcome? outcome with
    | none => reader.frames = r.frames ∧ reader.log = r.log
    | some verdict => (reader.frames = if verdict = .decoded then r.frames + 1 else r.frames) ∧
        ∃ attempt, attempt.seq = r.frames ∧ reader.log = r.log.record attempt := by
  cases read with
  | idle => exact ⟨rfl, rfl⟩
  | zero => exact ⟨rfl, rfl⟩
  | payload begins read =>
      rw [← begins.frames_eq, ← begins.log_eq]
      cases read with
      | short => exact ⟨rfl, rfl⟩
      | frame => exact ⟨rfl, _, rfl, rfl⟩
      | endOfLog => exact ⟨rfl, _, rfl, rfl⟩
      | mismatch => exact ⟨rfl, _, rfl, rfl⟩
      | corrupt => exact ⟨rfl, _, rfl, rfl⟩

/-- One run of the codec on a payload. -/
structure Try where
  /-- How many frames were decoded before. -/
  frame : Nat
  order? : Option PacketOrder
  verdict : Verdict
  /-- The count of failures after it. -/
  failures : Nat

/-- A packet that was fed: the tries it led to, the answer, and the count of failures after it. -/
structure Fed where
  tries : List Try
  result : Except TransferError Progress
  failures : Nat

/-- The transfer that a pass of the loop leaves. -/
def Turn.transfer {σ : Type} : Turn σ → Transfer σ
  | .stop reply => reply.transfer
  | .again t _ => t

namespace Transfer

variable {σ : Type} [RowSink σ] {t : Transfer σ} {plan : RetryPlan}

/-- The try that a pass of the loop makes. -/
def tried? (t : Transfer σ) : Option Try :=
  if t.limitReached then none
  else (Verdict.ofOutcome? t.step.outcome).map fun verdict =>
    { frame := t.reader.frames, order? := t.retries.order?, verdict
      failures := t.turn.transfer.retries.failures }

/-- The tries that the loop makes before there is an answer. -/
def tries (t : Transfer σ) : List Try :=
  match h : t.turn with
  | .stop _ => t.tried?.toList
  | .again t' _ =>
    have := load_turn_lt h
    t.tried?.toList ++ t'.tries
termination_by t.reader.load

/-- The tries that a packet leads to. -/
def triesOf (t : Transfer σ) (packet : Bytes) : List Try :=
  match t.phase with
  | .running =>
    match t.reader.write packet with
    | .ok reader => { t with reader }.tries
    | .error _ => []
  | _ => []

/-- What becomes of packets, one after another. -/
def history (t : Transfer σ) : List Bytes → List Fed
  | [] => []
  | packet :: rest =>
    let reply := t.feed packet
    { tries := t.triesOf packet, result := reply.result, failures := reply.transfer.retries.failures }
      :: reply.transfer.history rest

theorem tries_of_stop {reply : Reply σ} (turn : t.turn = .stop reply) : t.tries = t.tried?.toList := by
  rw [tries]
  split
  · rfl
  · rename_i again
    rw [turn] at again
    cases again

theorem tries_of_again {t' : Transfer σ} {events : List Event} (turn : t.turn = .again t' events) :
    t.tries = t.tried?.toList ++ t'.tries := by
  rw [tries]
  split
  · rename_i stopped
    rw [turn] at stopped
    cases stopped
  · rename_i again
    rw [turn] at again
    cases again
    rfl

theorem triesOf_of_write {packet : Bytes} {reader : FrameReader} (running : t.phase = .running)
    (accepted : t.reader.write packet = .ok reader) :
    t.triesOf packet = ({ t with reader } : Transfer σ).tries := by
  rw [triesOf]
  split
  · rw [accepted]
  · rename_i ended
    exact absurd running ended

theorem triesOf_of_full {packet : Bytes} {error : FrameError}
    (full : t.reader.write packet = .error error) : t.triesOf packet = [] := by
  rw [triesOf]
  split
  · rw [full]
  · rfl

theorem triesOf_of_ended {packet : Bytes} (ended : t.phase ≠ .running) : t.triesOf packet = [] := by
  rw [triesOf]
  split
  · rename_i running
    exact absurd running ended
  · rfl

theorem results_history (t : Transfer σ) (packets : List Bytes) :
    (t.history packets).map (·.result) = (t.feeds packets).results := by
  induction packets generalizing t with
  | nil => rfl
  | cons packet rest ih => rw [history, feeds_cons, List.map_cons, ih]

end Transfer

/-! ## Courses -/

/-- The packet order of an attempt on a frame: arrival order first, then the orders of the plan from the
    second one on, and the first one last. -/
def RetryPlan.scheduled (plan : RetryPlan) (k : Nat) : Option PacketOrder :=
  if k = 0 then none else plan.orders[k % plan.orders.length]?

theorem Retries.order?_eq (r : Retries) : r.order? = r.plan.scheduled r.failures := by
  rw [order?, RetryPlan.scheduled]
  cases orders : r.plan.orders with
  | nil => simp
  | cons o rest => rw [List.length_cons, Nat.max_eq_left (Nat.succ_pos _)]

/-- The result gives no frame up. -/
def Plain (result : Except TransferError Progress) : Prop :=
  ∀ n cause, result ≠ .error (.frame (.unrecoverable n cause))

theorem plain_ok (progress : Progress) : Plain (.ok progress) := by
  intro n cause given
  cases given

theorem plain_sink (cause : IoError) : Plain (.error (.sink cause)) := by
  intro n cause given
  cases given

theorem plain_schema (cause : SchemaError) : Plain (.error (.frame (.schema cause))) := by
  intro n cause given
  cases given

/-- Nothing is tried any more, and nothing is given up. -/
def Over (feds : List Fed) : Prop :=
  ∀ fed ∈ feds, fed.tries = [] ∧ Plain fed.result

/-- What can become of packets from attempt `k` on a frame on. -/
inductive Course (plan : RetryPlan) : Nat → Nat → List Fed → Prop
  | nil {frame k : Nat} : Course plan frame k []
  | decoded {frame k failures : Nat} {tries : List Try} {result : Except TransferError Progress}
      {later : List Fed} (within : k ≤ plan.orders.length)
      (onward : Course plan (frame + 1) 0 (⟨tries, result, failures⟩ :: later)) :
      Course plan frame k
        (⟨⟨frame, plan.scheduled k, .decoded, 0⟩ :: tries, result, failures⟩ :: later)
  | quiet {frame : Nat} {later : List Fed} (onward : Course plan frame 0 later) :
      Course plan frame 0 (⟨[], .ok .more, 0⟩ :: later)
  | retry {frame k : Nat} {later : List Fed} (cause : SchemaError) (within : k < plan.orders.length)
      (onward : Course plan frame (k + 1) later) :
      Course plan frame k
        (⟨[⟨frame, plan.scheduled k, .corrupt cause, k + 1⟩], .ok .more, k + 1⟩ :: later)
  | exhausted {frame k : Nat} {later : List Fed} (cause : SchemaError) (spent : k = plan.orders.length)
      (idle : Over later) :
      Course plan frame k (⟨[⟨frame, plan.scheduled k, .corrupt cause, k + 1⟩],
        .error (.frame (.unrecoverable (k + 1) cause)), k + 1⟩ :: later)
  | mismatch {frame k : Nat} {later : List Fed} (cause : SchemaError) (within : k ≤ plan.orders.length)
      (idle : Over later) :
      Course plan frame k (⟨[⟨frame, plan.scheduled k, .mismatch cause, k⟩],
        .error (.frame (.schema cause)), k⟩ :: later)
  | ended {frame : Nat} {later : List Fed} {result : Except TransferError Progress}
      (plain : Plain result) (idle : Over later) :
      Course plan frame 0 (⟨[], result, 0⟩ :: later)
  | full {frame k : Nat} {later : List Fed} (capacity : Nat) (idle : Over later) :
      Course plan frame k (⟨[], .error (.frame (.bufferFull capacity)), k⟩ :: later)

namespace Transfer

variable {σ : Type} [RowSink σ] {t : Transfer σ} {plan : RetryPlan}

theorem tried?_of_limit (reached : t.limitReached = true) : t.tried? = none :=
  if_pos reached

theorem tried?_of_idle (none : Verdict.ofOutcome? t.step.outcome = none) : t.tried? = .none := by
  rw [tried?, none, Option.map_none, ite_self]

theorem tried?_of_ran (below : t.limitReached = false) {verdict : Verdict}
    (ran : Verdict.ofOutcome? t.step.outcome = some verdict) :
    t.tried? = some ⟨t.reader.frames, t.retries.plan.scheduled t.retries.failures, verdict,
      t.turn.transfer.retries.failures⟩ := by
  rw [tried?, below, ran, Retries.order?_eq]
  rfl

theorem tried?_of_verdict (sound : Sound plan t) (below : t.limitReached = false) {verdict : Verdict}
    (ran : Verdict.ofOutcome? t.step.outcome = some verdict) :
    t.tried? = some ⟨t.reader.frames, plan.scheduled t.retries.failures, verdict,
      t.turn.transfer.retries.failures⟩ := by
  rw [tried?_of_ran below ran, sound.plan_eq]

theorem over_of_ended (ended : t.phase ≠ .running) (packets : List Bytes) : Over (t.history packets) := by
  induction packets with
  | nil => exact nofun
  | cons packet rest ih =>
      intro fed member
      rw [history] at member
      obtain ⟨same, answer⟩ := feed_of_ended ended packet
      rcases List.mem_cons.1 member with rfl | later
      · constructor
        · exact triesOf_of_ended ended
        · dsimp only
          rcases answer with complete | closed
          · rw [complete]
            exact plain_ok _
          · rw [closed]
            intro n cause given
            cases given
      · rw [same] at later
        exact ih fed later

/-! ## Histories are courses -/

/-- The answer of a transfer that completes or cannot flush its sink gives nothing up. -/
theorem finish_plain (t : Transfer σ) : Plain t.finish.result := by
  rcases t.finish_cases with ⟨sink, -, finished⟩ | ⟨sink, error, -, failed⟩
  · rw [finished]
    exact plain_ok _
  · rw [failed]
    exact plain_sink error

theorem finish_retries (t : Transfer σ) : t.finish.transfer.retries = t.retries := by
  obtain ⟨sink, -, phase, -, finished, -⟩ := t.transfer_finish
  rw [finished]

theorem finish_ended (t : Transfer σ) : t.finish.transfer.phase ≠ .running := by
  obtain ⟨sink, -, phase, -, finished, ended⟩ := t.transfer_finish
  rw [finished]
  exact ended

/-- How a history goes on behind the answer to a packet. -/
structure Onward (plan : RetryPlan) (t : Transfer σ) (later : List Fed) : Prop where
  running : t.phase = .running → Course plan t.reader.frames t.retries.failures later
  ended : t.phase ≠ .running → Over later

theorem stop_course {reply : Reply σ} {later : List Fed} (sound : Sound plan t)
    (running : t.phase = .running) (turn : t.turn = .stop reply)
    (onward : Onward plan reply.transfer later) :
    Course plan t.reader.frames t.retries.failures
      (⟨t.tried?.toList, reply.result, reply.transfer.retries.failures⟩ :: later) := by
  have ran := sound.reading.ran
  have budget := sound.budget running
  have left : t.turn.transfer = reply.transfer := by rw [turn]; rfl
  cases case_of_turn turn with
  | limit reached events =>
      have none := sound.no_failures_of_limit running reached
      rw [tried?_of_limit reached, none, Reply.transfer_after, Reply.result_after, finish_retries, none]
      exact .ended t.finish_plain (onward.ended t.finish_ended)
  | starved below outcome events =>
      have none := sound.no_failures_of_starved running outcome
      rw [outcome] at ran
      have after := onward.running running
      change Course plan t.step.reader.frames t.retries.failures later at after
      rw [ran.1, none] at after
      rw [tried?_of_idle (by rw [outcome]; rfl), none]
      show Course plan t.reader.frames 0 (⟨[], .ok .more, t.retries.failures⟩ :: later)
      rw [none]
      exact .quiet after
  | broken cause below outcome events =>
      have read := sound.reading
      rw [outcome] at read ran
      generalize t.step.reader = reader at read ran
      cases read with
      | zero queue fresh head =>
          have none := sound.no_failures_of_fresh running fresh
          rw [tried?_of_idle (by rw [outcome]; rfl), none]
          show Course plan t.reader.frames 0 (⟨[], _, t.retries.failures⟩ :: later)
          rw [none]
          refine .ended ?_ (onward.ended nofun)
          intro n cause given
          cases given
      | payload begins read =>
          cases read with
          | mismatch cause enough failed final =>
              rw [tried?_of_verdict sound below (by rw [outcome]; rfl), left]
              exact .mismatch cause budget (onward.ended nofun)
  | ended below outcome events =>
      rw [tried?_of_verdict sound below (by rw [outcome]; rfl), left, Reply.transfer_after,
        Reply.result_after, finish_retries]
      exact .decoded budget (.ended t.decoded.finish_plain (onward.ended t.decoded.finish_ended))
  | unknownColumn record cause below outcome unknown events =>
      rw [tried?_of_verdict sound below (by rw [outcome]; rfl), left]
      exact .decoded budget (.ended (plain_schema cause) (onward.ended nofun))
  | refused record values sink cause below outcome converted answer events =>
      rw [tried?_of_verdict sound below (by rw [outcome]; rfl), left]
      exact .decoded budget (.ended (plain_sink cause) (onward.ended nofun))
  | retry cause below outcome within events =>
      rw [outcome] at ran
      have after := onward.running running
      change Course plan t.step.reader.frames (t.retries.failures + 1) later at after
      rw [ran.1] at after
      rw [sound.plan_eq] at within
      rw [tried?_of_verdict sound below (by rw [outcome]; rfl), left]
      exact .retry cause within after
  | exhausted cause below outcome spent events =>
      rw [sound.plan_eq] at spent
      rw [tried?_of_verdict sound below (by rw [outcome]; rfl), left]
      exact .exhausted cause (Nat.le_antisymm budget spent) (onward.ended nofun)

/-- What becomes of a packet, and of those behind it, is a course. -/
theorem advance_course {later : List Fed} (sound : Sound plan t) (running : t.phase = .running)
    (onward : Onward plan t.advance.transfer later) :
    Course plan t.reader.frames t.retries.failures
      (⟨t.tries, t.advance.result, t.advance.transfer.retries.failures⟩ :: later) := by
  induction t using advance_induction with
  | stop t reply turn =>
      rw [advance_of_stop turn] at onward ⊢
      rw [tries_of_stop turn]
      exact stop_course sound running turn onward
  | again t t' events turn ih =>
      have ran := sound.reading.ran
      have budget := sound.budget running
      have left : t.turn.transfer = t' := by rw [turn]; rfl
      obtain ⟨sound', phase⟩ := sound.of_again turn
      rw [advance_of_again turn] at onward ⊢
      have after := ih sound' (phase.trans running) onward
      cases case_of_turn turn with
      | written record values sink below outcome converted answer events =>
          rw [outcome] at ran
          change Course plan t.step.reader.frames 0 _ at after
          rw [ran.1] at after
          rw [tries_of_again turn, tried?_of_verdict sound below (by rw [outcome]; rfl), left]
          exact .decoded budget after

theorem history_course (sound : Sound plan t) (running : t.phase = .running) (packets : List Bytes) :
    Course plan t.reader.frames t.retries.failures (t.history packets) := by
  induction packets generalizing t with
  | nil => exact .nil
  | cons packet rest ih =>
      have onward : Onward plan (t.feed packet).transfer ((t.feed packet).transfer.history rest) :=
        ⟨fun running' => ih (sound.feed packet) running', fun ended => over_of_ended ended rest⟩
      rw [history]
      rcases sound.feed_cases running packet with
        ⟨queue, accepted, advances, sound', -, -⟩ | ⟨full, failed, -⟩
      · rw [triesOf_of_write running accepted, advances]
        rw [advances] at onward
        exact advance_course sound' running onward
      · rw [triesOf_of_full full, failed]
        rw [failed] at onward
        exact .full _ (onward.ended nofun)

end Transfer

end SensorLog
