import SensorLog.Proofs.Frame.Reading
import SensorLog.Transfer.Basic

/-!
# What one pass of a transfer can do

`turn_cases` lists the ways in which a pass of the loop ends, each with its condition and the
transfer that it leaves. The events on the way are left open, but `turn_reported` tells which of them
report a failure. `advance_of_stop` and `advance_of_again` unfold the loop by one pass; with
`feed_of_running` nothing after this module opens these functions again.
-/

namespace SensorLog

variable {σ : Type}

@[simp] theorem Reply.result_after (reply : Reply σ) (events : List Event) :
    (reply.after events).result = reply.result := rfl

@[simp] theorem Reply.transfer_after (reply : Reply σ) (events : List Event) :
    (reply.after events).transfer = reply.transfer := rfl

theorem Reply.after_after (reply : Reply σ) (late early : List Event) :
    (reply.after late).after early = reply.after (early ++ late) := by
  simp only [Reply.after, List.append_assoc]

/-- The reports among events. -/
def reportsIn (events : List Event) : List Report :=
  events.filterMap Event.report?

theorem reportsIn_append (first second : List Event) :
    reportsIn (first ++ second) = reportsIn first ++ reportsIn second :=
  List.filterMap_append

/-- The reports that come with an answer. -/
def Reply.reports (reply : Reply σ) : List Report :=
  reportsIn reply.events

/-- An error comes with one report, of that error and the state left behind; another answer with none. -/
def Reply.Reported (reply : Reply σ) : Prop :=
  reply.reports = match reply.result with
    | .error error => [reply.transfer.report error]
    | .ok _ => []

theorem Reply.Reported.none_of_ok {reply : Reply σ} {progress : Progress} (reported : reply.Reported)
    (answer : reply.result = .ok progress) : reply.reports = [] := by
  rw [reported, answer]

/-- Events without reports may come before an answer. -/
theorem Reply.Reported.after {reply : Reply σ} {events : List Event} (reported : reply.Reported)
    (none : reportsIn events = []) : (reply.after events).Reported := by
  show reportsIn (events ++ reply.events) = _
  rw [reportsIn_append, none, List.nil_append]
  exact reported

/-- Reading reports no failure. -/
theorem FrameReader.reportsIn_next (r : FrameReader) (codec : RecordCodec) (order? : Option PacketOrder) :
    reportsIn (r.next codec order?).events = [] := by
  have payload (r : FrameReader) (size : Nat) :
      reportsIn (r.readPayload codec order? size).events = [] := by
    unfold readPayload
    dsimp only
    split
    · rfl
    · split
      · split
        · rfl
        · split
          · dsimp only
            split <;> rfl
          · rfl
      · split <;> rfl
  unfold next
  split
  · exact payload _ _
  · split
    · rfl
    · split
      · rfl
      · split
        · rfl
        · exact payload _ _

theorem Retries.reportsIn_successEvents (r : Retries) : reportsIn r.successEvents = [] := by
  unfold successEvents
  split <;> rfl

theorem Retries.reportsIn_failEvents (r : Retries) : reportsIn r.failEvents = [] := by
  unfold failEvents
  split <;> rfl

namespace Transfer

/-- The step of reading that a pass makes. -/
def step (t : Transfer σ) : ReadStep :=
  t.reader.next t.codec t.retries.order?

/-- The transfer after the step of its reader. -/
def stepped (t : Transfer σ) : Transfer σ :=
  { t with reader := t.step.reader }

/-- The transfer after a step that decoded a frame. -/
def decoded (t : Transfer σ) : Transfer σ :=
  { t.stepped with retries := t.retries.reset }

/-- The transfer after a step that found a corrupt frame. -/
def failedOnce (t : Transfer σ) : Transfer σ :=
  { t.stepped with retries := t.retries.fail }

/-- The row of a record. -/
def rowOf (t : Transfer σ) (record : Record) (values : List Value) : Row :=
  { columns := record.columns, values, header := t.headerChanged record.columns }

/-- The transfer after the row of a record that was written. -/
def wrote (t : Transfer σ) (record : Record) (sink : σ) : Transfer σ :=
  { t.decoded with sink, lastColumns? := some record.columns, entries := t.entries + 1 }

variable [RowSink σ]

/-- The ends of a pass. -/
inductive TurnCase (t : Transfer σ) : Turn σ → Prop
  | limit (reached : t.limitReached = true) (events : List Event) :
      TurnCase t (.stop (t.finish.after events))
  | starved (below : t.limitReached = false) (outcome : t.step.outcome = .ok .needMore)
      (events : List Event) :
      TurnCase t (.stop { result := .ok .more, transfer := t.stepped, events })
  | broken (cause : FrameError) (below : t.limitReached = false)
      (outcome : t.step.outcome = .error cause) (events : List Event) :
      TurnCase t (.stop ((t.stepped.fail (.frame cause)).after events))
  | ended (below : t.limitReached = false) (outcome : t.step.outcome = .ok .endOfLog)
      (events : List Event) :
      TurnCase t (.stop (t.decoded.finish.after events))
  | unknownColumn (record : Record) (cause : SchemaError) (below : t.limitReached = false)
      (outcome : t.step.outcome = .ok (.frame record))
      (unknown : t.decoded.convertAll record.cells = .error cause) (events : List Event) :
      TurnCase t (.stop ((t.decoded.fail (.frame (.schema cause))).after events))
  | refused (record : Record) (values : List Value) (sink : σ) (cause : IoError)
      (below : t.limitReached = false) (outcome : t.step.outcome = .ok (.frame record))
      (converted : t.decoded.convertAll record.cells = .ok values)
      (answer : RowSink.write t.sink (t.rowOf record values) = (sink, .error cause))
      (events : List Event) :
      TurnCase t (.stop
        (({ t.decoded with sink, lastColumns? := some record.columns }.fail (.sink cause)).after events))
  | written (record : Record) (values : List Value) (sink : σ)
      (below : t.limitReached = false) (outcome : t.step.outcome = .ok (.frame record))
      (converted : t.decoded.convertAll record.cells = .ok values)
      (answer : RowSink.write t.sink (t.rowOf record values) = (sink, .ok ()))
      (events : List Event) :
      TurnCase t (.again (t.wrote record sink) events)
  | retry (cause : SchemaError) (below : t.limitReached = false)
      (outcome : t.step.outcome = .ok (.corrupt cause))
      (within : t.retries.failures < t.retries.plan.orders.length) (events : List Event) :
      TurnCase t (.stop { result := .ok .more, transfer := t.failedOnce, events })
  | exhausted (cause : SchemaError) (below : t.limitReached = false)
      (outcome : t.step.outcome = .ok (.corrupt cause))
      (spent : t.retries.plan.orders.length ≤ t.retries.failures) (events : List Event) :
      TurnCase t (.stop ((t.failedOnce.fail
        (.frame (.unrecoverable (t.retries.failures + 1) cause))).after events))

theorem turn_cases (t : Transfer σ) : TurnCase t t.turn := by
  unfold turn
  split
  · rename_i reached
    exact .limit reached _
  · rename_i below
    simp only [Bool.not_eq_true] at below
    dsimp only
    have opened : t.reader.next t.codec t.retries.order? = t.step := rfl
    have stepped : { t with reader := t.step.reader } = t.stepped := rfl
    have decoded : { t with reader := t.step.reader, retries := t.retries.reset } = t.decoded := rfl
    simp only [opened, decoded, stepped]
    rcases outcome : t.step.outcome with cause | ⟨_ | record | _ | cause⟩
    · exact .broken _ below outcome _
    · exact .starved below outcome _
    · dsimp only
      unfold emit
      cases converted : t.decoded.convertAll record.cells with
      | error cause => exact .unknownColumn record cause below outcome converted _
      | ok values =>
          rcases answer : RowSink.write t.sink (t.rowOf record values) with ⟨sink, cause | ⟨⟩⟩
          · have answer' : RowSink.write t.decoded.sink
                { columns := record.columns, values, header := t.decoded.headerChanged record.columns }
                  = (sink, .error cause) := answer
            simp only [answer', Reply.after_after]
            exact .refused record values sink cause below outcome converted answer _
          · have answer' : RowSink.write t.decoded.sink
                { columns := record.columns, values, header := t.decoded.headerChanged record.columns }
                  = (sink, .ok ()) := answer
            simp only [answer']
            exact .written record values sink below outcome converted answer _
    · exact .ended below outcome _
    · by_cases within : t.retries.failures < t.retries.plan.orders.length
      · have again : t.stepped.retries.fail.action = .again (t.retries.failures + 1) :=
          Retries.action_eq_again_iff.2 within
        simp only [corrupt, again]
        exact .retry cause below outcome within _
      · have spent : t.stepped.retries.fail.action = .exhausted (t.retries.failures + 1) := by
          unfold Retries.action
          rw [if_pos]
          · rfl
          · show t.retries.plan.orders.length < t.retries.failures + 1
            omega
        simp only [corrupt, spent]
        exact .exhausted cause below outcome (Nat.le_of_not_lt within) _

/-- The way in which a pass with a known end went. -/
theorem case_of_turn {t : Transfer σ} {turn : Turn σ} (taken : t.turn = turn) : TurnCase t turn :=
  taken ▸ t.turn_cases

/-! ## A pass whose step is known -/

theorem turn_of_starved {t : Transfer σ} (below : t.limitReached = false)
    (starved : t.step.outcome = .ok .needMore) :
    ∃ events, t.turn = .stop { result := .ok .more, transfer := t.stepped, events } := by
  have ends := t.turn_cases
  generalize t.turn = turn at ends ⊢
  cases ends with
  | starved _ _ events => exact ⟨events, rfl⟩
  | _ => simp_all

theorem turn_of_corrupt {t : Transfer σ} {cause : SchemaError} (below : t.limitReached = false)
    (corrupt : t.step.outcome = .ok (.corrupt cause))
    (within : t.retries.failures < t.retries.plan.orders.length) :
    ∃ events, t.turn = .stop { result := .ok .more, transfer := t.failedOnce, events } := by
  have ends := t.turn_cases
  generalize t.turn = turn at ends ⊢
  cases ends with
  | retry _ _ _ _ events => exact ⟨events, rfl⟩
  | exhausted _ _ _ spent events => omega
  | _ => simp_all

theorem turn_of_endOfLog {t : Transfer σ} (below : t.limitReached = false)
    (ended : t.step.outcome = .ok .endOfLog) :
    ∃ events, t.turn = .stop (t.decoded.finish.after events) := by
  have ends := t.turn_cases
  generalize t.turn = turn at ends ⊢
  cases ends with
  | ended _ _ events => exact ⟨events, rfl⟩
  | _ => simp_all

theorem turn_of_frame {t : Transfer σ} {record : Record} {values : List Value} {sink : σ}
    (below : t.limitReached = false) (frame : t.step.outcome = .ok (.frame record))
    (converted : t.decoded.convertAll record.cells = .ok values)
    (answer : RowSink.write t.sink (t.rowOf record values) = (sink, .ok ())) :
    ∃ events, t.turn = .again (t.wrote record sink) events := by
  have ends := t.turn_cases
  generalize t.turn = turn at ends ⊢
  cases ends with
  | written record' values' sink' _ outcome converted' answer' events =>
      rw [frame] at outcome
      cases outcome
      rw [converted] at converted'
      cases converted'
      rw [answer] at answer'
      cases answer'
      exact ⟨events, rfl⟩
  | _ => simp_all

/-! ## Reports -/

omit [RowSink σ] in
theorem reported_fail (t : Transfer σ) (error : TransferError) : (t.fail error).Reported := rfl

omit [RowSink σ] in
theorem reported_corrupt (t : Transfer σ) (cause : SchemaError) : (t.corrupt cause).Reported := by
  unfold corrupt
  dsimp only
  split
  · exact t.retries.fail.reportsIn_failEvents
  · exact reported_fail _ _

theorem reported_finish (t : Transfer σ) : t.finish.Reported := by
  unfold finish
  split
  · exact reported_fail _ _
  · rfl

/-- An answer to a record reports its error; a row that was written reports nothing. -/
theorem emit_reported (t : Transfer σ) (record : Record) :
    match t.emit record with
    | .stop reply => reply.Reported
    | .again _ events => reportsIn events = [] := by
  have header (columns : List String) :
      reportsIn (if t.headerChanged columns then [.newHeader columns] else []) = [] := by
    split <;> rfl
  unfold emit
  cases t.convertAll record.cells with
  | error cause => exact reported_fail _ _
  | ok values =>
      have opened : RowSink.write t.sink
          { columns := record.columns, values, header := t.headerChanged record.columns }
            = RowSink.write t.sink (t.rowOf record values) := rfl
      simp only [opened]
      rcases RowSink.write t.sink (t.rowOf record values) with ⟨sink, cause | ⟨⟩⟩
      · exact (reported_fail _ _).after (header _)
      · exact header _

/-- A pass that stops reports its error; one that goes on reports nothing. -/
theorem turn_reported (t : Transfer σ) :
    match t.turn with
    | .stop reply => reply.Reported
    | .again _ events => reportsIn events = [] := by
  have read : reportsIn t.step.events = [] := t.reader.reportsIn_next t.codec t.retries.order?
  have recovered : reportsIn (t.step.events ++ t.retries.successEvents) = [] := by
    rw [reportsIn_append, read, t.retries.reportsIn_successEvents]
    rfl
  unfold turn
  by_cases reached : t.limitReached = true
  · rw [if_pos reached]
    exact t.reported_finish.after rfl
  · rw [if_neg reached]
    dsimp only
    have opened : t.reader.next t.codec t.retries.order? = t.step := rfl
    have decoded : { t with reader := t.step.reader, retries := t.retries.reset } = t.decoded := rfl
    simp only [opened, decoded]
    rcases t.step.outcome with cause | ⟨_ | record | _ | cause⟩
    · exact (reported_fail _ _).after read
    · exact read
    · dsimp only
      have emitted := t.decoded.emit_reported record
      cases row : t.decoded.emit record with
      | stop reply =>
          rw [row] at emitted
          exact emitted.after recovered
      | again t' events =>
          rw [row] at emitted
          show reportsIn (t.step.events ++ t.retries.successEvents ++ events) = []
          rw [reportsIn_append, recovered, emitted]
          rfl
    · exact t.decoded.reported_finish.after recovered
    · exact (reported_corrupt _ _).after read

/-! ## The loop and its calls -/

theorem advance_of_stop {t : Transfer σ} {reply : Reply σ} (turn : t.turn = .stop reply) :
    t.advance = reply := by
  rw [advance]
  split
  · rename_i stopped
    rw [turn] at stopped
    cases stopped
    rfl
  · rename_i again
    rw [turn] at again
    cases again

theorem advance_of_again {t t' : Transfer σ} {events : List Event} (turn : t.turn = .again t' events) :
    t.advance = t'.advance.after events := by
  rw [advance]
  split
  · rename_i stopped
    rw [turn] at stopped
    cases stopped
  · rename_i again
    rw [turn] at again
    cases again
    rfl

/-- Induction along the passes of the loop. -/
theorem advance_induction {motive : Transfer σ → Prop}
    (stop : ∀ t reply, t.turn = .stop reply → motive t)
    (again : ∀ t t' events, t.turn = .again t' events → motive t' → motive t) (t : Transfer σ) :
    motive t := by
  induction load : t.reader.load using Nat.strongRecOn generalizing t with
  | ind n ih =>
      cases turn : t.turn with
      | stop reply => exact stop t reply turn
      | again t' events =>
          exact again t t' events turn (ih t'.reader.load (load ▸ load_turn_lt turn) t' rfl)

theorem feed_of_running {t : Transfer σ} (running : t.phase = .running) (packet : Bytes) :
    t.feed packet = match t.reader.write packet with
      | .error e => t.fail (.frame e)
      | .ok reader => { t with reader }.advance := by
  rw [feed]
  split
  · rename_i complete
    rw [running] at complete
    cases complete
  · rename_i failed
    rw [running] at failed
    cases failed
  · rfl

/-- An empty packet adds nothing: the loop goes on from where it stopped. -/
theorem feed_nil {t : Transfer σ} (running : t.phase = .running) : t.feed [] = t.advance := by
  rw [feed_of_running running]
  rfl

/-- The transfer is over, unless its sink cannot be flushed. -/
theorem finish_cases (t : Transfer σ) :
    (∃ sink, RowSink.flush t.sink = (sink, .ok ()) ∧
      t.finish = { result := .ok (.complete t.entries), transfer := { t with sink, phase := .complete }
                   events := [.complete t.entries] }) ∨
    (∃ sink cause, RowSink.flush t.sink = (sink, .error cause) ∧
      t.finish = { t with sink }.fail (.sink cause)) := by
  rcases answer : RowSink.flush t.sink with ⟨sink, cause | ⟨⟩⟩
  · exact .inr ⟨sink, cause, rfl, by simp only [finish, answer]⟩
  · exact .inl ⟨sink, rfl, by simp only [finish, answer]⟩

/-- Finishing flushes the sink, and the transfer is over; nothing else changes. -/
theorem transfer_finish (t : Transfer σ) :
    ∃ sink result phase, RowSink.flush t.sink = (sink, result) ∧
      t.finish.transfer = { t with sink, phase } ∧ phase ≠ .running := by
  rcases t.finish_cases with ⟨sink, answer, finished⟩ | ⟨sink, cause, answer, failed⟩
  · rw [finished]
    exact ⟨sink, _, .complete, answer, rfl, nofun⟩
  · rw [failed]
    exact ⟨sink, _, .failed, answer, rfl, nofun⟩

end Transfer

end SensorLog
