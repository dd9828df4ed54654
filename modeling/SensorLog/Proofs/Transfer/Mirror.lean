import SensorLog.Proofs.Transfer.OnePass
import SensorLog.Proofs.Transfer.Turn

/-!
# The loop of a transfer is a pass over its bytes

`Answers t pass reply` says that a reply of `t` and the transfer after it are what a pass comes to.
The loop answers with the pass over the unread bytes (`advance_answers`): each of its passes either
halts where the pass does or writes the row that the pass gives next. `Mirrors.trans` lets a transfer
go on where a pass has run out of bytes.
-/

namespace SensorLog

/-- The phase of a transfer that stopped for a reason. -/
def Halt.phase : Halt → Phase
  | .starved _ => .running
  | .limit => .complete
  | .zeroLength => .failed
  | .noRow .endOfLog => .complete
  | .noRow (.corrupt _) => .failed
  | .noRow (.mismatch _) => .failed
  | .noRow (.unknownColumn _) => .failed

/-- The answer of a transfer that stopped for a reason, after a number of entries. -/
def Halt.answer (entries : Nat) : Halt → Except TransferError Progress
  | .starved _ => .ok .more
  | .limit => .ok (.complete entries)
  | .zeroLength => .error (.frame .zeroLengthFrame)
  | .noRow .endOfLog => .ok (.complete entries)
  | .noRow (.corrupt cause) => .error (.frame (.unrecoverable 1 cause))
  | .noRow (.mismatch cause) => .error (.frame (.schema cause))
  | .noRow (.unknownColumn cause) => .error (.frame (.schema cause))

/-- The sink calls of a pass: its rows, and a flush once it is complete. -/
def OnePass.calls (pass : OnePass) : List SinkCall :=
  pass.rows.map .write ++ if pass.halt.phase = .complete then [.flush] else []

theorem OnePass.calls_behind {first pass : OnePass} {left : Bytes} (starved : first.halt = .starved left) :
    (pass.behind first.rows).calls = first.calls ++ pass.calls := by
  have running : first.halt.phase = .running := by rw [starved]; rfl
  have quiet : first.calls = first.rows.map .write := by
    simp only [calls, running, reduceCtorEq, if_false, List.append_nil]
  rw [quiet, calls, behind, List.map_append, List.append_assoc]
  rfl

namespace Transfer

section Pass

variable {σ : Type} {t : Transfer σ}

/-- A running transfer that has read as far as its bytes go, or has not begun. -/
structure Ready (t : Transfer σ) : Prop where
  phase : t.phase = .running
  failures : t.retries.failures = 0
  reader : t.reader.Sound
  capacity : t.reader.queue.capacity = t.settings.capacity

/-- What decides how a transfer reads. -/
def setup (t : Transfer σ) : Setup :=
  { settings := t.settings, registry := t.registry, codec := t.codec }

/-- The pass over the bytes that a transfer has not read yet. -/
def pass (t : Transfer σ) : OnePass :=
  t.setup.onePass t.lastColumns? t.entries t.reader.unread

theorem limitReached_eq (t : Transfer σ) : t.limitReached = t.setup.enough t.entries := by
  simp only [limitReached, Setup.enough, setup]
  cases t.settings.maxEntries? <;> rfl

theorem convert_eq (t : Transfer σ) (column : String) (raw : Int) :
    t.convert column raw = t.setup.value (column, raw) := by
  simp only [convert, Setup.value, setup]
  cases t.registry.toUnit column (floatOfReading raw) <;> rfl

theorem convertAll_eq (t : Transfer σ) (cells : List (String × Int)) :
    t.convertAll cells = cells.mapM t.setup.value := by
  induction cells with
  | nil => rfl
  | cons cell rest ih =>
      rw [List.mapM_cons, convertAll, convert_eq, ih]
      cases t.setup.value cell with
      | error cause => rfl
      | ok value => cases rest.mapM t.setup.value <;> rfl

theorem pass_of_limit (reached : t.limitReached = true) : t.pass = ⟨[], .limit⟩ :=
  Setup.onePass_of_enough (t.limitReached_eq ▸ reached)

theorem pass_of_below (below : t.limitReached = false) :
    t.pass = t.setup.passFrom t.lastColumns? t.entries t.reader.unread (frontOf t.reader.unread) :=
  Setup.onePass_of_below (t.limitReached_eq ▸ below)

theorem pass_of_starved (below : t.limitReached = false) (front : frontOf t.reader.unread = .starved) :
    t.pass = ⟨[], .starved t.reader.unread⟩ := by
  rw [pass_of_below below, front]
  rfl

theorem pass_of_zeroLength (below : t.limitReached = false)
    (front : frontOf t.reader.unread = .zeroLength) : t.pass = ⟨[], .zeroLength⟩ := by
  rw [pass_of_below below, front]
  rfl

section Payload

variable {window rest : Bytes} {record : Record} {cause : SchemaError}

theorem pass_of_noRow {reason : NoRow} (below : t.limitReached = false)
    (front : frontOf t.reader.unread = .payload window rest)
    (none : t.setup.row t.lastColumns? window = .error reason) : t.pass = ⟨[], .noRow reason⟩ := by
  rw [pass_of_below below, front]
  simp only [Setup.passFrom, none]

theorem row_of_undecoded (failed : t.codec.decode window = .error cause) :
    t.setup.row t.lastColumns? window
      = .error (if cause.isMismatch then .mismatch cause else .corrupt cause) := by
  have failed' : t.setup.codec.decode window = .error cause := failed
  simp only [Setup.row, failed']

theorem row_of_endOfLog (decoded : t.codec.decode window = .ok record)
    (last : record.isEndOfLog = true) : t.setup.row t.lastColumns? window = .error .endOfLog := by
  have decoded' : t.setup.codec.decode window = .ok record := decoded
  simp only [Setup.row, decoded', last, if_true]

theorem row_of_unknownColumn (decoded : t.codec.decode window = .ok record)
    (more : record.isEndOfLog = false) (unknown : record.cells.mapM t.setup.value = .error cause) :
    t.setup.row t.lastColumns? window = .error (.unknownColumn cause) := by
  have decoded' : t.setup.codec.decode window = .ok record := decoded
  simp only [Setup.row, decoded', more, unknown]
  rfl

theorem row_of_decoded {values : List Value} (decoded : t.codec.decode window = .ok record)
    (more : record.isEndOfLog = false) (converted : record.cells.mapM t.setup.value = .ok values) :
    t.setup.row t.lastColumns? window = .ok (t.rowOf record values) := by
  have decoded' : t.setup.codec.decode window = .ok record := decoded
  simp only [Setup.row, decoded', more, converted]
  rfl

end Payload

/-- Without failures a frame is read in arrival order, so a step sees the front of the bytes. -/
theorem Ready.front (ready : t.Ready) :
    FrameReader.FrontReading t.codec t.reader.unread t.step.outcome t.step.reader.unread := by
  have order : t.retries.order? = none := by simp [Retries.order?, ready.failures]
  rw [step, order]
  exact FrameReader.next_front ready.reader t.codec

/-- A transfer whose reader has made a step and whose count of failures is back at zero. -/
theorem Ready.of_step {next : Transfer σ} (ready : t.Ready) (phase : next.phase = .running)
    (failures : next.retries.failures = 0) (reader : next.reader = t.step.reader)
    (settings : next.settings = t.settings) : next.Ready := by
  refine ⟨phase, failures, ?_, ?_⟩
  · rw [reader]
    exact ready.reader.next _ _
  · rw [reader, settings, ← ready.capacity]
    exact (FrameReader.next_reading ready.reader _ _).capacity_eq

end Pass

variable {σ : Type} [RowSink σ] {t : Transfer σ}

/-- A transfer after what a pass comes to. What the pass has left over is what is still unread. -/
structure Mirrors (before : Transfer σ) (pass : OnePass) (t : Transfer σ) : Prop where
  sink : t.sink = RowSink.after before.sink pass.calls
  entries : t.entries = before.entries + pass.rows.length
  columns : t.lastColumns? = Setup.lastColumns before.lastColumns? pass.rows
  phase : t.phase = pass.halt.phase
  setup : t.setup = before.setup
  plan : t.retries.plan = before.retries.plan
  left : ∀ rest, pass.halt = .starved rest → t.Ready ∧ t.reader.unread = rest

/-- A reply that says what a pass comes to. -/
structure Answers (before : Transfer σ) (pass : OnePass) (reply : Reply σ) : Prop where
  result : reply.result = pass.halt.answer (before.entries + pass.rows.length)
  mirrors : Mirrors before pass reply.transfer

/-- Either a corrupt payload ends the transfer at once, or the pass meets none. -/
def NoRetry (t : Transfer σ) (pass : OnePass) : Prop :=
  t.retries.plan.orders = [] ∨ ∀ cause, pass.halt ≠ .noRow (.corrupt cause)

/-- A pass that halts at once is answered by a transfer that fails at once, -/
theorem Answers.of_fail {halt : Halt} {next : Transfer σ} {error : TransferError} {events : List Event}
    (sink : next.sink = t.sink) (entries : next.entries = t.entries)
    (columns : next.lastColumns? = t.lastColumns?) (setup : next.setup = t.setup)
    (plan : next.retries.plan = t.retries.plan) (failed : halt.phase = .failed)
    (answer : halt.answer t.entries = .error error) :
    Answers t ⟨[], halt⟩ ((next.fail error).after events) := by
  refine ⟨answer.symm, ?_, entries, columns, failed.symm, setup, plan, ?_⟩
  · simp only [OnePass.calls, failed]
    exact sink
  · rintro rest rfl
    cases failed

/-- or, on a sink that never fails, by one that completes at once. -/
theorem Answers.of_finish {halt : Halt} {next : Transfer σ} {events : List Event}
    (faithful : RowSink.NeverFails t.sink) (sink : next.sink = t.sink) (entries : next.entries = t.entries)
    (columns : next.lastColumns? = t.lastColumns?) (setup : next.setup = t.setup)
    (plan : next.retries.plan = t.retries.plan) (complete : halt.phase = .complete)
    (answer : halt.answer t.entries = .ok (.complete t.entries)) :
    Answers t ⟨[], halt⟩ (next.finish.after events) := by
  have granted : RowSink.flush next.sink = (RowSink.after next.sink [.flush], .ok ()) :=
    (sink ▸ faithful : RowSink.NeverFails next.sink).call .flush
  simp only [finish, granted]
  refine ⟨?_, ?_, entries, columns, complete.symm, setup, plan, ?_⟩
  · rw [Reply.result_after, entries]
    exact answer.symm
  · simp only [OnePass.calls, complete, if_true, Reply.transfer_after, sink, List.map_nil, List.nil_append]
  · rintro rest rfl
    cases complete

/-- Where a pass of the loop stops a ready transfer, the pass over its bytes halts. -/
theorem stop_answers {reply : Reply σ} (ready : t.Ready) (faithful : RowSink.NeverFails t.sink)
    (single : t.NoRetry t.pass) (turn : t.turn = .stop reply) : Answers t t.pass reply := by
  have front := ready.front
  obtain ⟨left, unread⟩ : ∃ left, t.step.reader.unread = left := ⟨_, rfl⟩
  rw [unread] at front
  cases case_of_turn turn with
  | limit reached events =>
      rw [pass_of_limit reached]
      exact .of_finish faithful rfl rfl rfl rfl rfl rfl rfl
  | starved below outcome events =>
      rw [outcome] at front
      cases front with
      | starved front =>
          rw [pass_of_starved below front]
          refine ⟨rfl, rfl, rfl, rfl, ready.phase, rfl, rfl, ?_⟩
          intro rest halt
          cases halt
          exact ⟨ready.of_step ready.phase ready.failures rfl rfl, unread⟩
  | broken cause below outcome events =>
      rw [outcome] at front
      cases front with
      | zeroLength front =>
          rw [pass_of_zeroLength below front]
          exact .of_fail rfl rfl rfl rfl rfl rfl rfl
      | mismatch cause front failed final =>
          rw [pass_of_noRow below front (row_of_undecoded failed), if_pos final]
          exact .of_fail rfl rfl rfl rfl rfl rfl rfl
  | ended below outcome events =>
      rw [outcome] at front
      cases front with
      | endOfLog record front decoded last =>
          rw [pass_of_noRow below front (row_of_endOfLog decoded last)]
          exact .of_finish faithful rfl rfl rfl rfl rfl rfl rfl
  | unknownColumn record cause below outcome unknown events =>
      rw [outcome] at front
      cases front with
      | frame record front decoded more =>
          rw [convertAll_eq] at unknown
          rw [pass_of_noRow below front (row_of_unknownColumn decoded more unknown)]
          exact .of_fail rfl rfl rfl rfl rfl rfl rfl
  | refused record values sink cause below outcome converted answer events =>
      have granted := faithful.call (.write (t.rowOf record values))
      rw [show RowSink.call t.sink (.write (t.rowOf record values)) = (sink, .error cause) from answer]
        at granted
      cases granted
  | retry cause below outcome within events =>
      rw [outcome] at front
      cases front with
      | corrupt cause front failed mendable =>
          rcases single with single | single
          · rw [single] at within
            exact absurd within (Nat.not_lt_zero _)
          · apply absurd _ (single cause)
            rw [pass_of_noRow below front (row_of_undecoded failed), mendable]
            rfl
  | exhausted cause below outcome spent events =>
      rw [outcome] at front
      cases front with
      | corrupt cause front failed mendable =>
          rw [pass_of_noRow below front (row_of_undecoded failed), mendable, ready.failures]
          exact .of_fail rfl rfl rfl rfl rfl rfl rfl

theorem Mirrors.neverFails {next : Transfer σ} {pass : OnePass} (mirrors : Mirrors t pass next)
    (faithful : RowSink.NeverFails t.sink) : RowSink.NeverFails next.sink :=
  mirrors.sink ▸ faithful.after pass.calls

theorem Mirrors.noRetry {next : Transfer σ} {first pass : OnePass} (mirrors : Mirrors t first next)
    (single : t.NoRetry (pass.behind first.rows)) : next.NoRetry pass := by
  rw [NoRetry, mirrors.plan]
  exact single

/-- A pass that goes on where one starved is mirrored by a transfer that goes on from there. -/
theorem Mirrors.trans {next last : Transfer σ} {first pass : OnePass} {left : Bytes}
    (begun : Mirrors t first next) (starved : first.halt = .starved left)
    (continued : Mirrors next pass last) : Mirrors t (pass.behind first.rows) last where
  sink := by
    rw [continued.sink, begun.sink, OnePass.calls_behind starved, RowSink.after_append]
  entries := by
    rw [continued.entries, begun.entries]
    simp only [OnePass.behind, List.length_append]
    omega
  columns := by
    rw [continued.columns, begun.columns]
    exact List.foldl_append.symm
  phase := continued.phase
  setup := continued.setup.trans begun.setup
  plan := continued.plan.trans begun.plan
  left := continued.left

theorem Answers.trans {next : Transfer σ} {first pass : OnePass} {left : Bytes} {reply : Reply σ}
    (begun : Mirrors t first next) (starved : first.halt = .starved left)
    (continued : Answers next pass reply) : Answers t (pass.behind first.rows) reply := by
  have count : next.entries + pass.rows.length = t.entries + (pass.behind first.rows).rows.length := by
    rw [begun.entries]
    simp only [OnePass.behind, List.length_append]
    omega
  constructor
  · rw [continued.result, count]
    rfl
  · exact begun.trans starved continued.mirrors

omit [RowSink σ] in
theorem pass_of_written {window : Bytes} {record : Record} {values : List Value} {sink : σ}
    (below : t.limitReached = false)
    (front : frontOf t.reader.unread = .payload window t.step.reader.unread)
    (decoded : t.codec.decode window = .ok record) (more : record.isEndOfLog = false)
    (converted : record.cells.mapM t.setup.value = .ok values) :
    t.pass = (t.wrote record sink).pass.behind [t.rowOf record values] := by
  rw [pass_of_below below, front]
  simp only [Setup.passFrom, row_of_decoded decoded more converted]
  rfl

/-- Where a pass of the loop goes on, the pass over the bytes gives a row and goes on. -/
theorem again_mirrors {t' : Transfer σ} {events : List Event} (ready : t.Ready)
    (turn : t.turn = .again t' events) :
    ∃ row, Mirrors t ⟨[row], .starved t'.reader.unread⟩ t' ∧ t.pass = t'.pass.behind [row] := by
  have front := ready.front
  obtain ⟨left, unread⟩ : ∃ left, t.step.reader.unread = left := ⟨_, rfl⟩
  rw [unread] at front
  cases case_of_turn turn with
  | written record values sink below outcome converted answer events =>
      rw [outcome] at front
      cases front with
      | frame record front decoded more =>
          subst unread
          rw [convertAll_eq] at converted
          refine ⟨t.rowOf record values, ?_, pass_of_written below front decoded more converted⟩
          refine ⟨?_, rfl, rfl, ready.phase, rfl, rfl, ?_⟩
          · show sink = (RowSink.write t.sink (t.rowOf record values)).1
            rw [answer]
          · intro rest halt
            cases halt
            exact ⟨ready.of_step ready.phase rfl rfl rfl, rfl⟩

/-- The loop makes of a ready transfer what a pass makes of its unread bytes. -/
theorem advance_answers (t : Transfer σ) (ready : t.Ready) (faithful : RowSink.NeverFails t.sink)
    (single : t.NoRetry t.pass) : Answers t t.pass t.advance := by
  induction t using advance_induction with
  | stop t reply turn =>
      rw [advance_of_stop turn]
      exact stop_answers ready faithful single turn
  | again t t' events turn ih =>
      obtain ⟨row, begun, pass⟩ := again_mirrors ready turn
      obtain ⟨ready', -⟩ := begun.left _ rfl
      rw [pass] at single ⊢
      have later := ih ready' (begun.neverFails faithful) (begun.noRetry single)
      have answers := later.trans begun rfl
      rw [advance_of_again turn]
      exact ⟨answers.result, answers.mirrors⟩

end Transfer

end SensorLog
