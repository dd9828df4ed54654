import SensorLog.Proofs.Row.Calls
import SensorLog.Proofs.Transfer.Retrying

/-!
# A transfer knows its sink by the answers

A map between sinks that keeps every answer (`RowSink.Respects`) carries each call on a transfer over to
the mapped transfer, with the same result and the same events (`call_mapSink`), and so whole runs
(`run_mapSink`). Forgetting notes is such a map, so what is shown of a noted sink holds of the sink itself.
-/

namespace SensorLog

variable {σ τ : Type}

/-- Every call is answered by the mapped sink as by the sink. -/
def RowSink.Respects [RowSink σ] [RowSink τ] (f : σ → τ) : Prop :=
  ∀ sink c, RowSink.call (f sink) c = (f (RowSink.call sink c).1, (RowSink.call sink c).2)

theorem Noted.respects_sink [RowSink σ] : RowSink.Respects (Noted.sink : Noted σ → σ) := by
  intro s c
  rw [call_eq]
  rfl

theorem RowSink.Respects.after [RowSink σ] [RowSink τ] {f : σ → τ} (respects : RowSink.Respects f) (sink : σ)
    (calls : List SinkCall) : RowSink.after (f sink) calls = f (RowSink.after sink calls) := by
  induction calls generalizing sink with
  | nil => rfl
  | cons c rest ih => rw [RowSink.after_cons, RowSink.after_cons, respects, ih]

/-- The transfer with another sink. -/
def Transfer.mapSink (f : σ → τ) (t : Transfer σ) : Transfer τ :=
  { t with sink := f t.sink }

/-- The answer of the transfer with another sink. -/
def Reply.mapSink (f : σ → τ) (reply : Reply σ) : Reply τ :=
  { reply with transfer := reply.transfer.mapSink f }

@[simp] theorem Reply.result_mapSink (f : σ → τ) (reply : Reply σ) :
    (reply.mapSink f).result = reply.result := rfl

@[simp] theorem Reply.transfer_mapSink (f : σ → τ) (reply : Reply σ) :
    (reply.mapSink f).transfer = reply.transfer.mapSink f := rfl

/-- The pass of the transfer with another sink. -/
def Turn.mapSink (f : σ → τ) : Turn σ → Turn τ
  | .stop reply => .stop (reply.mapSink f)
  | .again t events => .again (t.mapSink f) events

namespace Transfer

/-- A sink that never fails lets the transfer complete. -/
theorem finish_of_faithful [RowSink σ] (t : Transfer σ) (faithful : RowSink.NeverFails t.sink) :
    t.finish = { result := .ok (.complete t.entries)
                 transfer := { t with sink := RowSink.after t.sink [.flush], phase := .complete }
                 events := [.complete t.entries] } := by
  have granted : RowSink.flush t.sink = (RowSink.after t.sink [.flush], .ok ()) := faithful.call .flush
  simp only [finish, granted]

variable [RowSink σ] [RowSink τ] {f : σ → τ}

omit [RowSink σ] [RowSink τ] in
theorem convertAll_mapSink (f : σ → τ) (t : Transfer σ) (cells : List (String × Int)) :
    (t.mapSink f).convertAll cells = t.convertAll cells := by
  induction cells with
  | nil => rfl
  | cons cell later ih =>
      obtain ⟨column, reading⟩ := cell
      have first : (t.mapSink f).convert column reading = t.convert column reading := rfl
      rw [convertAll, convertAll, first, ih]

theorem finish_mapSink (respects : RowSink.Respects f) (t : Transfer σ) :
    (t.mapSink f).finish = t.finish.mapSink f := by
  have answer : RowSink.flush (t.mapSink f).sink = (f (RowSink.flush t.sink).1, (RowSink.flush t.sink).2) :=
    respects t.sink .flush
  unfold finish
  rw [answer]
  rcases RowSink.flush t.sink with ⟨sink, cause | ⟨⟩⟩ <;> rfl

theorem emit_mapSink (respects : RowSink.Respects f) (t : Transfer σ) (record : Record) :
    (t.mapSink f).emit record = (t.emit record).mapSink f := by
  unfold emit
  rw [convertAll_mapSink]
  cases t.convertAll record.cells with
  | error cause => rfl
  | ok values =>
      let row : Row := { columns := record.columns, values, header := t.headerChanged record.columns }
      have answer : RowSink.write (t.mapSink f).sink row
          = (f (RowSink.write t.sink row).1, (RowSink.write t.sink row).2) := respects t.sink (.write row)
      have same : (t.mapSink f).headerChanged record.columns = t.headerChanged record.columns := rfl
      dsimp only
      rw [same, answer]
      rcases RowSink.write t.sink row with ⟨sink, cause | ⟨⟩⟩ <;> rfl

omit [RowSink σ] [RowSink τ] in
theorem corrupt_mapSink (f : σ → τ) (t : Transfer σ) (cause : SchemaError) :
    (t.mapSink f).corrupt cause = (t.corrupt cause).mapSink f := by
  unfold corrupt
  dsimp only
  have same : (t.mapSink f).retries.fail.action = t.retries.fail.action := rfl
  rw [same]
  cases t.retries.fail.action <;> rfl

theorem turn_mapSink (respects : RowSink.Respects f) (t : Transfer σ) :
    (t.mapSink f).turn = t.turn.mapSink f := by
  have limit : (t.mapSink f).limitReached = t.limitReached := rfl
  have step : (t.mapSink f).reader.next (t.mapSink f).codec (t.mapSink f).retries.order? = t.step := rfl
  have opened : t.reader.next t.codec t.retries.order? = t.step := rfl
  have stepped : { t.mapSink f with reader := t.step.reader } = t.stepped.mapSink f := rfl
  have decoded : { t.mapSink f with reader := t.step.reader, retries := (t.mapSink f).retries.reset }
      = t.decoded.mapSink f := rfl
  have decoded' : { t with reader := t.step.reader, retries := t.retries.reset } = t.decoded := rfl
  unfold turn
  rw [limit]
  by_cases reached : t.limitReached = true
  · rw [if_pos reached, if_pos reached, finish_mapSink respects]
    rfl
  · rw [if_neg reached, if_neg reached]
    simp only [step, opened, stepped, decoded, decoded']
    rcases t.step.outcome with cause | ⟨_ | record | _ | cause⟩
    · rfl
    · rfl
    · dsimp only
      rw [emit_mapSink respects]
      cases t.decoded.emit record <;> rfl
    · dsimp only
      rw [finish_mapSink respects]
      rfl
    · dsimp only
      rw [corrupt_mapSink]
      rfl

theorem advance_mapSink (respects : RowSink.Respects f) (t : Transfer σ) :
    (t.mapSink f).advance = t.advance.mapSink f := by
  induction t using advance_induction with
  | stop t reply turn =>
      have mapped : (t.mapSink f).turn = .stop (reply.mapSink f) := by
        rw [turn_mapSink respects, turn]
        rfl
      rw [advance_of_stop turn, advance_of_stop mapped]
  | again t t' events turn ih =>
      have mapped : (t.mapSink f).turn = .again (t'.mapSink f) events := by
        rw [turn_mapSink respects, turn]
        rfl
      rw [advance_of_again turn, advance_of_again mapped, ih]
      rfl

theorem feed_mapSink (respects : RowSink.Respects f) (t : Transfer σ) (packet : Bytes) :
    (t.mapSink f).feed packet = (t.feed packet).mapSink f := by
  have same : (t.mapSink f).phase = t.phase := rfl
  cases phase : t.phase with
  | running =>
      have written : (t.mapSink f).reader.write packet = t.reader.write packet := rfl
      rw [feed_of_running (same.trans phase), feed_of_running phase, written]
      cases t.reader.write packet with
      | error error => rfl
      | ok reader => exact advance_mapSink respects { t with reader }
  | complete =>
      rw [feed_of_complete (same.trans phase), feed_of_complete phase]
      rfl
  | failed =>
      rw [feed_of_failed (same.trans phase), feed_of_failed phase]
      rfl

omit [RowSink σ] [RowSink τ] in
theorem idle_mapSink (f : σ → τ) (t : Transfer σ) : (t.mapSink f).idle = t.idle.mapSink f := by
  have same : (t.mapSink f).phase = t.phase := rfl
  unfold idle
  rw [same]
  cases t.phase <;> rfl

theorem retryPending_mapSink (respects : RowSink.Respects f) (t : Transfer σ) :
    (t.mapSink f).retryPending = t.retryPending.mapSink f := by
  have fed (t : Transfer σ) : (t.mapSink f).feed [] = (t.feed []).mapSink f := feed_mapSink respects t []
  -- Whether a round is due, and what it leaves to do, is read off fields that a map of the sink keeps.
  induction t using retryPending_induction with
  | failed t error pending failed =>
      have failed' : ((t.mapSink f).feed []).result = .error error := by
        rw [fed]
        exact failed
      rw [retryPending_of_error pending failed, retryPending_of_error (t := t.mapSink f) pending failed', fed]
      rfl
  | round t progress pending answer lower ih =>
      have answer' : ((t.mapSink f).feed []).result = .ok progress := by
        rw [fed]
        exact answer
      have lower' : ((t.mapSink f).feed []).transfer.retryLoad < (t.mapSink f).retryLoad := by
        rw [fed]
        exact lower
      rw [retryPending_of_round pending answer lower,
        retryPending_of_round (t := t.mapSink f) pending answer' lower', fed, Reply.transfer_mapSink, ih]
      rfl
  | stuck t progress pending answer stuck =>
      have answer' : ((t.mapSink f).feed []).result = .ok progress := by
        rw [fed]
        exact answer
      have stuck' : ¬ ((t.mapSink f).feed []).transfer.retryLoad < (t.mapSink f).retryLoad := by
        rw [fed]
        exact stuck
      rw [retryPending_of_stuck pending answer stuck,
        retryPending_of_stuck (t := t.mapSink f) pending answer' stuck', fed, Reply.transfer_mapSink,
        idle_mapSink]
      rfl
  | quiet t quiet =>
      rw [retryPending_of_quiet quiet, retryPending_of_quiet (t := t.mapSink f) quiet, idle_mapSink]

/-- A call on the mapped transfer has the same result and events and leaves the mapped transfer. -/
theorem call_mapSink (respects : RowSink.Respects f) (t : Transfer σ) (c : Call) :
    (t.mapSink f).call c = (t.call c).mapSink f := by
  cases c with
  | feed packet => exact feed_mapSink respects t packet
  | retryPending => exact retryPending_mapSink respects t

theorem run_mapSink (respects : RowSink.Respects f) (t : Transfer σ) (calls : List Call) :
    (t.mapSink f).run calls
      = { results := (t.run calls).results, transfer := (t.run calls).transfer.mapSink f } := by
  induction calls generalizing t with
  | nil => rfl
  | cons c rest ih =>
      rw [run, call_mapSink respects, Reply.result_mapSink, Reply.transfer_mapSink, ih]
      rfl

end Transfer

end SensorLog
