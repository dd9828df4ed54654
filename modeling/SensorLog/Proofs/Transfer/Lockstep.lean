import SensorLog.Proofs.Transfer.Settling
import SensorLog.Proofs.Transfer.SinkMap

/-!
# Two transfers in step

Two transfers that read the same payloads and differ only in the rows that they make of them are
`InStep`: same reader, same count of failures, same phase, and row by row like rows on their sinks, which
never fail. A pass of both stops with the same answer or goes on with a row more on each side
(`InStep.turn`), as long as their entry limits agree. So whole calls and runs have the same results
(`InStep.call`, `InStep.run`), whatever packets come and whatever is retried.
-/

namespace SensorLog

variable {σ τ : Type}

/-! ## What calls keep -/

namespace Transfer

variable [RowSink σ]

theorem entries_finish (t : Transfer σ) : t.finish.transfer.entries = t.entries := by
  obtain ⟨sink, -, phase, -, finished, -⟩ := t.transfer_finish
  rw [finished]

theorem settings_of_again {t t' : Transfer σ} {events : List Event} (turn : t.turn = .again t' events) :
    t'.settings = t.settings :=
  congrArg Setup.settings (setup_of_again turn)

theorem settings_feed (t : Transfer σ) (packet : Bytes) :
    (t.feed packet).transfer.settings = t.settings :=
  congrArg Setup.settings (setup_feed t packet)

theorem settings_call (t : Transfer σ) (c : Call) : (t.call c).transfer.settings = t.settings := by
  cases c with
  | feed packet => exact settings_feed t packet
  | retryPending =>
      show t.retryPending.transfer.settings = t.settings
      rw [(retryPending_eq_feeds t).1]
      exact congrArg Setup.settings (setup_feeds t _)

/-- Since then the sink was called, and nothing else happened to it. -/
def Reaches (t t' : Transfer σ) : Prop :=
  ∃ calls, t'.sink = RowSink.after t.sink calls

theorem Reaches.refl (t : Transfer σ) : t.Reaches t :=
  ⟨[], rfl⟩

theorem Reaches.trans {t t' t'' : Transfer σ} (first : t.Reaches t') (second : t'.Reaches t'') : t.Reaches t'' := by
  obtain ⟨early, reached⟩ := first
  obtain ⟨late, last⟩ := second
  exact ⟨early ++ late, by rw [last, reached, RowSink.after_append]⟩

theorem Reaches.of_call {t t' : Transfer σ} {sink : σ} {result : Except IoError Unit} (c : SinkCall)
    (answer : RowSink.call t.sink c = (sink, result)) (left : t'.sink = sink) : t.Reaches t' :=
  ⟨[c], by rw [left, RowSink.after_cons, answer, RowSink.after_nil]⟩

theorem reaches_finish (t : Transfer σ) : t.Reaches t.finish.transfer := by
  obtain ⟨sink, result, phase, answer, finished, -⟩ := t.transfer_finish
  exact .of_call .flush answer (by rw [finished])

variable {t : Transfer σ}

theorem reaches_of_stop {reply : Reply σ} (turn : t.turn = .stop reply) : t.Reaches reply.transfer := by
  cases case_of_turn turn with
  | limit reached events => exact t.reaches_finish
  | ended below outcome events => exact t.decoded.reaches_finish
  | refused record values sink cause below outcome converted answer events =>
      exact .of_call (.write (t.rowOf record values)) answer rfl
  | starved below outcome events => exact .refl t
  | broken cause below outcome events => exact .refl t
  | unknownColumn record cause below outcome unknown events => exact .refl t
  | retry cause below outcome within events => exact .refl t
  | exhausted cause below outcome spent events => exact .refl t

theorem reaches_of_again {t' : Transfer σ} {events : List Event} (turn : t.turn = .again t' events) :
    t.Reaches t' := by
  cases case_of_turn turn with
  | written record values sink below outcome converted answer events =>
      exact .of_call (.write (t.rowOf record values)) answer rfl

theorem reaches_advance (t : Transfer σ) : t.Reaches t.advance.transfer := by
  induction t using advance_induction with
  | stop t reply turn =>
      rw [advance_of_stop turn]
      exact reaches_of_stop turn
  | again t t' events turn ih =>
      rw [advance_of_again turn]
      exact (reaches_of_again turn).trans ih

theorem reaches_feed (t : Transfer σ) (packet : Bytes) : t.Reaches (t.feed packet).transfer := by
  by_cases running : t.phase = .running
  · rw [feed_of_running running]
    split
    · exact .refl t
    · rename_i reader accepted
      exact reaches_advance { t with reader }
  · rw [(feed_of_ended running packet).1]
    exact .refl t

theorem reaches_feeds (t : Transfer σ) (packets : List Bytes) : t.Reaches (t.feeds packets).transfer := by
  induction packets generalizing t with
  | nil => exact .refl t
  | cons packet rest ih =>
      rw [feeds_cons]
      exact (t.reaches_feed packet).trans (ih _)

end Transfer

/-! ## The rows on a sink -/

namespace Noted

/-- The row of a note, if the sink took one. -/
def taken? : SinkCall × Except IoError Unit → Option Row
  | (.write row, .ok ()) => some row
  | _ => none

/-- The rows that the sink took, first row first. -/
def rows (s : Noted σ) : List Row :=
  s.notes.filterMap taken?

variable [RowSink σ]

/-- A call adds its row if the sink takes one. -/
theorem rows_call (s : Noted σ) (c : SinkCall) :
    (RowSink.call s c).1.rows = s.rows ++ (taken? (c, (RowSink.call s c).2)).toList := by
  rw [call_eq]
  simp only [call, rows, List.filterMap_append, List.filterMap_cons, List.filterMap_nil]
  cases taken? (c, (RowSink.call s.sink c).2) <;> rfl

/-- No row is taken back. -/
theorem rows_after (s : Noted σ) (calls : List SinkCall) : s.rows <+: (RowSink.after s calls).rows := by
  induction calls generalizing s with
  | nil => exact List.prefix_rfl
  | cons c rest ih => exact (show s.rows <+: _ from ⟨_, (s.rows_call c).symm⟩).trans (ih _)

variable {s : Noted σ}

theorem rows_write (faithful : RowSink.NeverFails s) (row : Row) :
    (RowSink.after s [.write row]).rows = s.rows ++ [row] := by
  have rows := s.rows_call (.write row)
  rwa [faithful.call (.write row)] at rows

theorem rows_flush (faithful : RowSink.NeverFails s) : (RowSink.after s [.flush]).rows = s.rows := by
  have rows := s.rows_call .flush
  rw [faithful.call .flush] at rows
  exact rows.trans (List.append_nil _)

end Noted

namespace Transfer

/-- The transfer with its sink noted. -/
def noted (t : Transfer σ) : Transfer (Noted σ) :=
  t.mapSink fun sink => { sink }

theorem mapSink_noted (t : Transfer σ) : t.noted.mapSink Noted.sink = t := rfl

variable [RowSink σ]

/-- The rows that calls write, first row first. -/
def rowsAfter (t : Transfer σ) (calls : List Call) : List Row :=
  (t.noted.run calls).transfer.sink.rows

/-- Noting what reaches the sink changes no result. -/
theorem results_noted (t : Transfer σ) (calls : List Call) :
    (t.noted.run calls).results = (t.run calls).results := by
  have forgotten := run_mapSink Noted.respects_sink t.noted calls
  rw [mapSink_noted] at forgotten
  rw [forgotten]

end Transfer

/-! ## Transfers in step -/

/-- Setups under one codec that make like rows of the same records, or refuse them alike. -/
structure Setup.Matches (like : Row → Row → Prop) (a b : Setup) : Prop where
  codec : b.codec = a.codec
  values : ∀ payload record, a.codec.decode payload = .ok record →
    (∃ cause, record.cells.mapM a.value = .error cause ∧ record.cells.mapM b.value = .error cause) ∨
      ∃ values values', record.cells.mapM a.value = .ok values ∧ record.cells.mapM b.value = .ok values' ∧
        ∀ header, like ⟨record.columns, values, header⟩ ⟨record.columns, values', header⟩

/-- Setups with one codec that turn readings into the same values make the same rows. -/
theorem Setup.Matches.same {a b : Setup} (codec : b.codec = a.codec) (value : b.value = a.value) :
    Setup.Matches (· = ·) a b where
  codec := codec
  values := by
    intro payload record _
    rw [value]
    cases record.cells.mapM a.value with
    | error cause => exact .inl ⟨cause, rfl, rfl⟩
    | ok values => exact .inr ⟨values, values, rfl, rfl, fun _ => rfl⟩

namespace Transfer

/-- Two transfers at the same point, with like rows behind them. -/
structure InStep [RowSink σ] [RowSink τ] (like : Row → Row → Prop) (t : Transfer (Noted σ))
    (u : Transfer (Noted τ)) : Prop where
  setup : t.setup.Matches like u.setup
  sound : t.reader.Sound
  reader : u.reader = t.reader
  retries : u.retries = t.retries
  entries : u.entries = t.entries
  columns : u.lastColumns? = t.lastColumns?
  phase : u.phase = t.phase
  rows : List.Forall₂ like t.sink.rows u.sink.rows
  tally : t.sink.rows.length = t.entries
  faithful : RowSink.NeverFails t.sink
  faithful' : RowSink.NeverFails u.sink

variable [RowSink σ] [RowSink τ] {like : Row → Row → Prop} {t : Transfer (Noted σ)} {u : Transfer (Noted τ)}

/-- The passes of two transfers: both stop with the same answer, or both go on behind a row more. -/
inductive TurnsAlike (like : Row → Row → Prop) (t : Transfer (Noted σ)) :
    Turn (Noted σ) → Turn (Noted τ) → Prop
  | stop {reply : Reply (Noted σ)} {reply' : Reply (Noted τ)} (result : reply'.result = reply.result)
      (entries : reply.transfer.entries = t.entries) (after : InStep like reply.transfer reply'.transfer) :
      TurnsAlike like t (.stop reply) (.stop reply')
  | again {t' : Transfer (Noted σ)} {u' : Transfer (Noted τ)} {events events' : List Event}
      (entries : t'.entries = t.entries + 1) (after : InStep like t' u') :
      TurnsAlike like t (.again t' events) (.again u' events')

theorem TurnsAlike.of_stop {reply : Reply (Noted σ)} (alike : TurnsAlike like t t.turn u.turn)
    (turn : t.turn = .stop reply) :
    ∃ reply', u.turn = .stop reply' ∧ reply'.result = reply.result ∧ reply.transfer.entries = t.entries ∧
      InStep like reply.transfer reply'.transfer := by
  rw [turn] at alike
  generalize u.turn = turn' at alike ⊢
  cases alike with
  | @stop _ reply' result entries after => exact ⟨reply', rfl, result, entries, after⟩

theorem TurnsAlike.of_again {t' : Transfer (Noted σ)} {events : List Event}
    (alike : TurnsAlike like t t.turn u.turn) (turn : t.turn = .again t' events) :
    ∃ u' events', u.turn = .again u' events' ∧ t'.entries = t.entries + 1 ∧ InStep like t' u' := by
  rw [turn] at alike
  generalize u.turn = turn' at alike ⊢
  cases alike with
  | @again _ u' _ events' entries after => exact ⟨u', events', rfl, entries, after⟩

namespace InStep

/-- Fresh transfers are in step. -/
theorem fresh {settings settings' : Settings} {registry registry' : Registry} {codec : RecordCodec}
    {sink : σ} {sink' : τ} (faithful : RowSink.NeverFails sink) (faithful' : RowSink.NeverFails sink')
    (plan : settings'.plan = settings.plan) (capacity : settings'.capacity = settings.capacity)
    (logLimit : settings'.logLimit = settings.logLimit)
    (matched : Setup.Matches like ⟨settings, registry, codec⟩ ⟨settings', registry', codec⟩) :
    InStep like (ofCodec settings registry codec sink).noted (ofCodec settings' registry' codec sink').noted where
  setup := matched
  sound := .new _ _
  reader := by
    show FrameReader.new settings'.capacity settings'.logLimit = _
    rw [capacity, logLimit]
    rfl
  retries := by
    show ({ plan := settings'.plan } : Retries) = _
    rw [plan]
    rfl
  entries := rfl
  columns := rfl
  phase := rfl
  rows := .nil
  tally := rfl
  faithful := Noted.neverFails (s := { sink }) faithful
  faithful' := Noted.neverFails (s := { sink := sink' }) faithful'

/-- Rows that are equal one by one are the same rows. -/
theorem rows_eq (together : InStep (· = ·) t u) : u.sink.rows = t.sink.rows :=
  (List.forall₂_eq_eq_eq ▸ together.rows).symm

theorem step (together : InStep like t u) : u.step = t.step := by
  have codec : u.codec = t.codec := together.setup.codec
  rw [Transfer.step, Transfer.step, together.reader, together.retries, codec]

theorem stepped (together : InStep like t u) : InStep like t.stepped u.stepped :=
  { together with
    sound := together.sound.next _ _
    reader := congrArg ReadStep.reader together.step }

theorem decoded (together : InStep like t u) : InStep like t.decoded u.decoded :=
  { together.stepped with retries := congrArg Retries.reset together.retries }

/-- Both fail with one error. -/
theorem fail (together : InStep like t u) (error : TransferError) :
    InStep like (t.fail error).transfer (u.fail error).transfer :=
  { together with phase := rfl }

/-- Both complete, since their sinks let themselves be flushed. -/
theorem finish (together : InStep like t u) :
    u.finish.result = t.finish.result ∧ InStep like t.finish.transfer u.finish.transfer := by
  rw [t.finish_of_faithful together.faithful, u.finish_of_faithful together.faithful', together.entries]
  refine ⟨rfl, ?_⟩
  exact { together with
    entries := rfl
    phase := rfl
    rows := by
      rw [Noted.rows_flush together.faithful, Noted.rows_flush together.faithful']
      exact together.rows
    tally := by
      rw [Noted.rows_flush together.faithful]
      exact together.tally
    faithful := together.faithful.after _
    faithful' := together.faithful'.after _ }

/-- Both write a row of a record, or the codec's columns fail both alike. -/
theorem emit (together : InStep like t u) {payload : Bytes} {record : Record}
    (decoded : t.codec.decode payload = .ok record) :
    TurnsAlike like t (t.emit record) (u.emit record) := by
  have header : u.headerChanged record.columns = t.headerChanged record.columns := by
    rw [headerChanged, headerChanged, together.columns]
  unfold Transfer.emit
  rw [convertAll_eq, convertAll_eq]
  rcases together.setup.values payload record decoded with
    ⟨cause, failed, failed'⟩ | ⟨values, values', converted, converted', alike⟩
  · simp only [failed, failed']
    exact .stop rfl rfl (together.fail _)
  · simp only [converted, converted', header]
    let row : Row := ⟨record.columns, values, t.headerChanged record.columns⟩
    let row' : Row := ⟨record.columns, values', t.headerChanged record.columns⟩
    have granted : RowSink.write t.sink row = (RowSink.after t.sink [.write row], .ok ()) :=
      together.faithful.call (.write row)
    have granted' : RowSink.write u.sink row' = (RowSink.after u.sink [.write row'], .ok ()) :=
      together.faithful'.call (.write row')
    simp only [row, row'] at granted granted'
    simp only [granted, granted', together.entries]
    refine .again rfl { together with
      entries := rfl
      columns := rfl
      rows := ?_
      tally := ?_
      faithful := together.faithful.after _
      faithful' := together.faithful'.after _ }
    · rw [Noted.rows_write together.faithful, Noted.rows_write together.faithful']
      exact List.rel_append together.rows (.cons (alike _) .nil)
    · rw [Noted.rows_write together.faithful, List.length_append, together.tally]
      rfl

/-- A corrupt payload waits for another attempt in both, or both fail. -/
theorem corrupt (together : InStep like t u) (cause : SchemaError) :
    (u.corrupt cause).result = (t.corrupt cause).result ∧
      InStep like (t.corrupt cause).transfer (u.corrupt cause).transfer ∧
      (t.corrupt cause).transfer.entries = t.entries := by
  have counted : InStep like { t with retries := t.retries.fail } { u with retries := u.retries.fail } :=
    { together with retries := congrArg Retries.fail together.retries }
  unfold Transfer.corrupt
  dsimp only
  rw [together.retries] at counted ⊢
  cases t.retries.fail.action with
  | again attempt => exact ⟨rfl, counted, rfl⟩
  | exhausted attempts => exact ⟨rfl, counted.fail _, rfl⟩

theorem limitReached_eq (together : InStep like t u)
    (limits : u.settings.maxEntries? = t.settings.maxEntries?) : u.limitReached = t.limitReached := by
  rw [limitReached, limitReached, limits, together.entries]

/-- With one entry limit, a pass of both stops with one answer or goes on behind a row more. -/
theorem turn (together : InStep like t u) (limits : u.limitReached = t.limitReached) :
    TurnsAlike like t t.turn u.turn := by
  by_cases reached : t.limitReached = true
  · obtain ⟨result, after⟩ := together.finish
    unfold Transfer.turn
    rw [limits, if_pos reached, if_pos reached]
    exact .stop result (entries_finish t) after
  · have read := FrameReader.next_reading together.sound t.codec t.retries.order?
    have opened : t.reader.next t.codec t.retries.order? = t.step := rfl
    have opened' : u.reader.next u.codec u.retries.order? = u.step := rfl
    have stepped : { t with reader := t.step.reader } = t.stepped := rfl
    have stepped' : { u with reader := u.step.reader } = u.stepped := rfl
    have decoded : { t with reader := t.step.reader, retries := t.retries.reset } = t.decoded := rfl
    have decoded' : { u with reader := u.step.reader, retries := u.retries.reset } = u.decoded := rfl
    have same : u.step.outcome = t.step.outcome := congrArg ReadStep.outcome together.step
    unfold Transfer.turn
    rw [limits, if_neg reached, if_neg reached]
    simp only [opened, opened', stepped, stepped', decoded, decoded', same]
    rw [opened] at read
    rcases outcome : t.step.outcome with cause | ⟨_ | record | _ | cause⟩
    · exact .stop rfl rfl (together.stepped.fail (.frame cause))
    · exact .stop rfl rfl together.stepped
    · rw [outcome] at read
      obtain ⟨payload, known⟩ := read.decoded
      have rows : TurnsAlike like t.decoded (t.decoded.emit record) (u.decoded.emit record) :=
        together.decoded.emit known
      dsimp only
      generalize t.decoded.emit record = row at rows ⊢
      generalize u.decoded.emit record = row' at rows ⊢
      cases rows with
      | stop result entries after => exact .stop result entries after
      | again entries after => exact .again entries after
    · obtain ⟨result, after⟩ := together.decoded.finish
      exact .stop result (entries_finish t.decoded) after
    · obtain ⟨result, after, entries⟩ := together.stepped.corrupt cause
      exact .stop result entries after

/-! ## Calls and runs -/

/-- Both have the entry limit that they have, if any, in common. -/
theorem advance (together : InStep like t u) (limits : u.settings.maxEntries? = t.settings.maxEntries?) :
    u.advance.result = t.advance.result ∧ InStep like t.advance.transfer u.advance.transfer := by
  induction t using advance_induction generalizing u with
  | stop t reply turn =>
      obtain ⟨reply', turn', result, -, after⟩ := (together.turn (together.limitReached_eq limits)).of_stop turn
      rw [advance_of_stop turn, advance_of_stop turn']
      exact ⟨result, after⟩
  | again t t' events turn ih =>
      obtain ⟨u', events', turn', -, after⟩ := (together.turn (together.limitReached_eq limits)).of_again turn
      rw [advance_of_again turn, advance_of_again turn']
      apply ih after
      rw [settings_of_again turn, settings_of_again turn']
      exact limits

theorem write {packet : Bytes} {reader : FrameReader} (together : InStep like t u)
    (accepted : t.reader.write packet = .ok reader) :
    InStep like { t with reader } { u with reader } :=
  { together with sound := together.sound.write accepted, reader := rfl }

theorem feed (together : InStep like t u) (limits : u.settings.maxEntries? = t.settings.maxEntries?)
    (packet : Bytes) : (u.feed packet).result = (t.feed packet).result ∧
      InStep like (t.feed packet).transfer (u.feed packet).transfer := by
  cases phase : t.phase with
  | running =>
      rw [feed_of_running phase, feed_of_running (together.phase.trans phase), together.reader]
      cases accepted : t.reader.write packet with
      | error cause => exact ⟨rfl, together.fail _⟩
      | ok reader => exact (together.write accepted).advance limits
  | complete =>
      rw [feed_of_complete phase, feed_of_complete (together.phase.trans phase), together.entries]
      exact ⟨rfl, together⟩
  | failed =>
      rw [feed_of_failed phase, feed_of_failed (together.phase.trans phase)]
      exact ⟨rfl, together⟩

theorem retryLoad_eq (together : InStep like t u) : u.retryLoad = t.retryLoad := by
  rw [retryLoad, retryLoad, together.reader, together.retries]

theorem pending (together : InStep like t u) (pending : t.phase = .running ∧ 0 < t.retries.failures) :
    u.phase = .running ∧ 0 < u.retries.failures := by
  rwa [together.phase, together.retries]

theorem idle (together : InStep like t u) : u.idle.result = t.idle.result := by
  unfold Transfer.idle
  rw [together.phase, together.entries]
  cases t.phase <;> rfl

theorem retryPending (together : InStep like t u)
    (limits : u.settings.maxEntries? = t.settings.maxEntries?) :
    u.retryPending.result = t.retryPending.result ∧
      InStep like t.retryPending.transfer u.retryPending.transfer := by
  induction t using retryPending_induction generalizing u with
  | failed t error pending failed =>
      obtain ⟨same, after⟩ := together.feed limits []
      rw [retryPending_of_error pending failed,
        retryPending_of_error (together.pending pending) (same.trans failed)]
      exact ⟨rfl, after⟩
  | round t progress pending answer lower ih =>
      obtain ⟨same, after⟩ := together.feed limits []
      have lower' : (u.feed []).transfer.retryLoad < u.retryLoad := by
        rw [after.retryLoad_eq, together.retryLoad_eq]
        exact lower
      rw [retryPending_of_round pending answer lower,
        retryPending_of_round (together.pending pending) (same.trans answer) lower']
      apply ih after
      rw [settings_feed, settings_feed]
      exact limits
  | stuck t progress pending answer stuck =>
      obtain ⟨same, after⟩ := together.feed limits []
      have stuck' : ¬ (u.feed []).transfer.retryLoad < u.retryLoad := by
        rw [after.retryLoad_eq, together.retryLoad_eq]
        exact stuck
      rw [retryPending_of_stuck pending answer stuck,
        retryPending_of_stuck (together.pending pending) (same.trans answer) stuck', Reply.transfer_after,
        Reply.transfer_after, transfer_idle, transfer_idle]
      exact ⟨after.idle, after⟩
  | quiet t quiet =>
      have quiet' : ¬ (u.phase = .running ∧ 0 < u.retries.failures) := by
        rw [together.phase, together.retries]
        exact quiet
      rw [retryPending_of_quiet quiet, retryPending_of_quiet quiet', transfer_idle, transfer_idle]
      exact ⟨together.idle, together⟩

theorem call (together : InStep like t u) (limits : u.settings.maxEntries? = t.settings.maxEntries?)
    (c : Call) : (u.call c).result = (t.call c).result ∧
      InStep like (t.call c).transfer (u.call c).transfer := by
  cases c with
  | feed packet => exact together.feed limits packet
  | retryPending => exact together.retryPending limits

/-- Transfers in step stay in step over any calls, with the same results. -/
theorem run (together : InStep like t u) (limits : u.settings.maxEntries? = t.settings.maxEntries?)
    (calls : List Call) : (u.run calls).results = (t.run calls).results ∧
      InStep like (t.run calls).transfer (u.run calls).transfer := by
  induction calls generalizing t u with
  | nil => exact ⟨rfl, together⟩
  | cons c rest ih =>
      obtain ⟨result, after⟩ := together.call limits c
      have limits' : (u.call c).transfer.settings.maxEntries? = (t.call c).transfer.settings.maxEntries? := by
        rw [settings_call, settings_call]
        exact limits
      obtain ⟨results, last⟩ := ih after limits'
      rw [Transfer.run, Transfer.run, result, results]
      exact ⟨rfl, last⟩

end InStep

end Transfer

end SensorLog
