import SensorLog.Proofs.Transfer.Retrying
import SensorLog.Proofs.Transfer.SinkMap

/-!
# The life of a transfer

A transfer runs, and then it is complete or failed for good. `Answered` says what its answers show of
that, `SinkUse` what its sink sees: every row that the sink took is counted, the pass that comes to the
end flushes the sink, no other pass does, and nothing reaches the sink after that. Both hold of every run
of calls on a fresh transfer, whichever calls its sink refuses (`run_lifeCycle`).
-/

namespace SensorLog

/-! ## The notes of a sink -/

namespace Noted

variable {σ : Type}

/-- Whether a note is of a row that the sink took. -/
def isAccepted : SinkCall × Except IoError Unit → Bool
  | (.write _, .ok ()) => true
  | _ => false

/-- The number of rows that the sink took. -/
def accepted (s : Noted σ) : Nat :=
  s.notes.countP isAccepted

/-- The sink was never flushed. -/
def Unflushed (s : Noted σ) : Prop :=
  ∀ note ∈ s.notes, note.1 ≠ .flush

variable {s s' : Noted σ} {result : Except IoError Unit}

theorem notes_of_call [RowSink σ] {c : SinkCall} (answer : RowSink.call s c = (s', result)) :
    s'.notes = s.notes ++ [(c, result)] := by
  rw [call_eq] at answer
  have left : (s.call c).1 = s' := congrArg Prod.fst answer
  have right : (s.call c).2 = result := congrArg Prod.snd answer
  rw [← left, ← right]
  rfl

theorem accepted_of_notes {c : SinkCall} (notes : s'.notes = s.notes ++ [(c, result)]) :
    s'.accepted = s.accepted + (if isAccepted (c, result) then 1 else 0) := by
  rw [accepted, accepted, notes, List.countP_append, List.countP_singleton]

theorem Unflushed.of_write {row : Row} (unflushed : s.Unflushed)
    (notes : s'.notes = s.notes ++ [(.write row, result)]) : s'.Unflushed := by
  intro note member
  rw [notes, List.mem_append, List.mem_singleton] at member
  rcases member with earlier | rfl
  · exact unflushed note earlier
  · exact nofun

end Noted

namespace Transfer

variable {σ : Type} [RowSink σ]

/-! ## Passes -/

/-- The transfers at the passes of the loop. -/
def passes (t : Transfer σ) : List (Transfer σ) :=
  match h : t.turn with
  | .stop _ => [t]
  | .again t' _ =>
    have := load_turn_lt h
    t :: t'.passes
termination_by t.reader.load

/-- The transfers at the passes that a packet leads to. -/
def passesOf (t : Transfer σ) (packet : Bytes) : List (Transfer σ) :=
  match t.phase with
  | .running =>
    match t.reader.write packet with
    | .ok reader => { t with reader }.passes
    | .error _ => []
  | _ => []

/-- The transfers at the passes that packets lead to, one after another. -/
def passesOver (t : Transfer σ) : List Bytes → List (Transfer σ)
  | [] => []
  | packet :: rest => t.passesOf packet ++ (t.feed packet).transfer.passesOver rest

omit [RowSink σ] in
/-- A pass comes to the end: no further entry is wanted, or the record that ends the log is read. -/
def AtEnd (t : Transfer σ) : Prop :=
  t.limitReached = true ∨ t.step.outcome = .ok .endOfLog

variable {t : Transfer σ}

theorem passes_of_stop {reply : Reply σ} (turn : t.turn = .stop reply) : t.passes = [t] := by
  rw [passes]
  split
  · rfl
  · rename_i again
    rw [turn] at again
    cases again

theorem passes_of_again {t' : Transfer σ} {events : List Event} (turn : t.turn = .again t' events) :
    t.passes = [t] ++ t'.passes := by
  rw [passes]
  split
  · rename_i stopped
    rw [turn] at stopped
    cases stopped
  · rename_i again
    rw [turn] at again
    cases again
    rfl

theorem passesOf_of_running (running : t.phase = .running) (packet : Bytes) :
    t.passesOf packet = match t.reader.write packet with
      | .ok reader => ({ t with reader } : Transfer σ).passes
      | .error _ => [] := by
  rw [passesOf]
  split
  · rfl
  · rename_i ended
    exact absurd running ended

theorem passesOf_of_ended (ended : t.phase ≠ .running) (packet : Bytes) : t.passesOf packet = [] := by
  rw [passesOf]
  split
  · rename_i running
    exact absurd running ended
  · rfl

theorem passesOver_of_ended (ended : t.phase ≠ .running) (packets : List Bytes) :
    t.passesOver packets = [] := by
  induction packets with
  | nil => rfl
  | cons packet rest ih =>
      rw [passesOver, (feed_of_ended ended packet).1, passesOf_of_ended ended, ih]
      rfl

theorem passesOver_append (t : Transfer σ) (first second : List Bytes) :
    t.passesOver (first ++ second) = t.passesOver first ++ (t.feeds first).transfer.passesOver second := by
  induction first generalizing t with
  | nil => rfl
  | cons packet rest ih =>
      rw [List.cons_append, passesOver, passesOver, ih, feeds_cons, List.append_assoc]

omit [RowSink σ] in
theorem not_atEnd (below : t.limitReached = false) {outcome : Except FrameError Outcome}
    (stepped : t.step.outcome = outcome) (more : outcome ≠ .ok .endOfLog) : ¬ t.AtEnd := by
  rintro (reached | ended)
  · rw [below] at reached
    cases reached
  · exact more (stepped.symm.trans ended)

/-! ## What the sink sees -/

/-- What the sink saw in passes of a transfer, and what it has seen when they are over. -/
structure SinkUse (passes : List (Transfer (Noted σ))) (last : Transfer (Noted σ)) : Prop where
  /-- The entries are the rows that the sink took. -/
  tally : ∀ u ∈ last :: passes, u.entries = u.sink.accepted
  /-- No pass begins after a flush. -/
  unflushed : ∀ p ∈ passes, p.sink.Unflushed
  /-- No pass follows one that comes to the end. -/
  only : passes.Pairwise fun p _ => ¬ p.AtEnd
  /-- The pass that comes to the end flushes the sink once and does nothing else to it. -/
  flushed : ∀ p ∈ passes, p.AtEnd →
    ∃ result, last.sink.notes = p.sink.notes ++ [(.flush, result)]
  /-- Without such a pass the sink is not flushed. -/
  never : (∀ p ∈ passes, ¬ p.AtEnd) → last.sink.Unflushed
  /-- There is none as long as the transfer is running. -/
  running : last.phase = .running → ∀ p ∈ passes, ¬ p.AtEnd

namespace SinkUse

variable {t u v : Transfer (Noted σ)} {ps qs : List (Transfer (Noted σ))}

omit [RowSink σ] in
theorem nil (tally : u.entries = u.sink.accepted) (unflushed : u.sink.Unflushed) : SinkUse [] u where
  tally := by
    intro w member
    rw [List.mem_singleton.1 member]
    exact tally
  unflushed := nofun
  only := .nil
  flushed := nofun
  never _ := unflushed
  running _ := nofun

omit [RowSink σ] in
/-- A pass that does not come to the end leaves the sink unflushed. -/
theorem single (use : SinkUse [] t) (more : ¬ t.AtEnd) (tally : u.entries = u.sink.accepted)
    (unflushed : u.sink.Unflushed) : SinkUse [t] u where
  tally := by
    intro w member
    rcases List.mem_pair.1 member with rfl | rfl
    · exact tally
    · exact use.tally w (.head _)
  unflushed := by
    intro p member
    rw [List.mem_singleton.1 member]
    exact use.never nofun
  only := List.pairwise_singleton _ _
  flushed := by
    intro p member ended
    rw [List.mem_singleton.1 member] at ended
    exact absurd ended more
  never _ := unflushed
  running := by
    intro _ p member
    rw [List.mem_singleton.1 member]
    exact more

/-- A pass that comes to the end flushes the sink, and the transfer is over. -/
theorem final (use : SinkUse [] t) (ended : t.AtEnd) (sink_eq : u.sink = t.sink)
    (entries_eq : u.entries = t.entries) : SinkUse [t] u.finish.transfer := by
  obtain ⟨sink, result, phase, answer, finished, ended'⟩ := u.transfer_finish
  have notes : sink.notes = t.sink.notes ++ [(.flush, result)] := by
    rw [sink_eq] at answer
    exact Noted.notes_of_call answer
  have counted : sink.accepted = t.sink.accepted := Noted.accepted_of_notes notes
  have tally : t.entries = t.sink.accepted := use.tally t (.head _)
  rw [finished]
  constructor
  · intro w member
    rcases List.mem_pair.1 member with rfl | rfl
    · show u.entries = sink.accepted
      rw [entries_eq, counted, tally]
    · exact tally
  · intro p member
    rw [List.mem_singleton.1 member]
    exact use.never nofun
  · exact List.pairwise_singleton _ _
  · intro p member _
    rw [List.mem_singleton.1 member]
    exact ⟨result, notes⟩
  · intro more
    exact absurd ended (more t (.head _))
  · intro running
    exact absurd running ended'

omit [RowSink σ] in
/-- Passes of a running transfer may be followed by others. -/
theorem append (first : SinkUse ps u) (second : SinkUse qs v) (running : u.phase = .running) :
    SinkUse (ps ++ qs) v := by
  -- Had one of the first passes come to the end, the transfer would not be running behind them.
  have more : ∀ p ∈ ps, ¬ p.AtEnd := first.running running
  constructor
  · intro w member
    rcases List.mem_cons.1 member with rfl | among
    · exact second.tally w (.head _)
    · rcases List.mem_append.1 among with early | late
      · exact first.tally w (.tail _ early)
      · exact second.tally w (.tail _ late)
  · intro p member
    rcases List.mem_append.1 member with early | late
    · exact first.unflushed p early
    · exact second.unflushed p late
  · rw [List.pairwise_append]
    exact ⟨first.only, second.only, fun p early _ _ => more p early⟩
  · intro p member ended
    rcases List.mem_append.1 member with early | late
    · exact absurd ended (more p early)
    · exact second.flushed p late ended
  · intro none
    apply second.never
    intro p late
    exact none p (List.mem_append_right ps late)
  · intro running' p member
    rcases List.mem_append.1 member with early | late
    · exact more p early
    · exact second.running running' p late

omit [RowSink σ] in
/-- A running transfer can take passes up. -/
theorem resume (use : SinkUse ps u) (running : u.phase = .running) : SinkUse [] u :=
  nil (use.tally u (.head _)) (use.never (use.running running))

theorem of_stop {reply : Reply (Noted σ)} (use : SinkUse [] t) (turn : t.turn = .stop reply) :
    SinkUse [t] reply.transfer := by
  have tally : t.entries = t.sink.accepted := use.tally t (.head _)
  have unflushed : t.sink.Unflushed := use.never nofun
  cases case_of_turn turn with
  | limit reached events => exact use.final (.inl reached) rfl rfl
  | ended below outcome events => exact use.final (.inr outcome) rfl rfl
  | starved below outcome events => exact use.single (not_atEnd below outcome nofun) tally unflushed
  | broken cause below outcome events => exact use.single (not_atEnd below outcome nofun) tally unflushed
  | unknownColumn record cause below outcome unknown events =>
      exact use.single (not_atEnd below outcome nofun) tally unflushed
  | refused record values sink cause below outcome converted answer events =>
      have notes : sink.notes = t.sink.notes ++ [(.write (t.rowOf record values), .error cause)] :=
        Noted.notes_of_call answer
      have counted : sink.accepted = t.sink.accepted := Noted.accepted_of_notes notes
      exact use.single (not_atEnd below outcome nofun) (tally.trans counted.symm) (unflushed.of_write notes)
  | retry cause below outcome within events =>
      exact use.single (not_atEnd below outcome nofun) tally unflushed
  | exhausted cause below outcome spent events =>
      exact use.single (not_atEnd below outcome nofun) tally unflushed

theorem of_again {t' : Transfer (Noted σ)} {events : List Event} (use : SinkUse [] t)
    (turn : t.turn = .again t' events) : SinkUse [t] t' := by
  have tally : t.entries = t.sink.accepted := use.tally t (.head _)
  cases case_of_turn turn with
  | written record values sink below outcome converted answer events =>
      have notes : sink.notes = t.sink.notes ++ [(.write (t.rowOf record values), .ok ())] :=
        Noted.notes_of_call answer
      have counted : sink.accepted = t.sink.accepted + 1 := Noted.accepted_of_notes notes
      apply use.single (not_atEnd below outcome nofun)
      · show t.entries + 1 = sink.accepted
        rw [counted, tally]
      · exact Noted.Unflushed.of_write (use.never nofun) notes

theorem of_advance (use : SinkUse [] t) (running : t.phase = .running) :
    SinkUse t.passes t.advance.transfer := by
  induction t using advance_induction with
  | stop t reply turn =>
      rw [passes_of_stop turn, advance_of_stop turn]
      exact use.of_stop turn
  | again t t' events turn ih =>
      have running' : t'.phase = .running := (phase_of_again turn).trans running
      have first : SinkUse [t] t' := use.of_again turn
      rw [passes_of_again turn, advance_of_again turn]
      exact first.append (ih (first.resume running') running') running'

theorem of_feed (use : SinkUse [] t) (running : t.phase = .running) (packet : Bytes) :
    SinkUse (t.passesOf packet) (t.feed packet).transfer := by
  have tally : t.entries = t.sink.accepted := use.tally t (.head _)
  have unflushed : t.sink.Unflushed := use.never nofun
  rw [feed_of_running running, passesOf_of_running running]
  cases t.reader.write packet with
  | error error => exact nil tally unflushed
  | ok reader =>
      have filled : SinkUse [] ({ t with reader } : Transfer (Noted σ)) := nil tally unflushed
      exact filled.of_advance running

theorem of_feeds (use : SinkUse [] t) (running : t.phase = .running) (packets : List Bytes) :
    SinkUse (t.passesOver packets) (t.feeds packets).transfer := by
  induction packets generalizing t with
  | nil => exact use
  | cons packet rest ih =>
      have first := use.of_feed running packet
      rw [passesOver, feeds_cons]
      by_cases running' : (t.feed packet).transfer.phase = .running
      · exact first.append (ih (first.resume running') running') running'
      · rw [passesOver_of_ended running', transfer_feeds_of_ended running', List.append_nil]
        exact first

end SinkUse

/-! ## What the answers show -/

/-- The answers to calls, first call first. -/
def replies (t : Transfer σ) : List Call → List (Reply σ)
  | [] => []
  | c :: rest => t.call c :: (t.call c).transfer.replies rest

theorem results_replies (t : Transfer σ) (calls : List Call) :
    (t.replies calls).map (·.result) = (t.run calls).results := by
  induction calls generalizing t with
  | nil => rfl
  | cons c rest ih =>
      rw [replies, List.map_cons, ih]
      rfl

/-- After an answer that ends the transfer a later call repeats that it is complete, or says that it is
    closed. It has no events and leaves the transfer as it was. -/
def Lasts (reply later : Reply σ) : Prop :=
  (∀ n, reply.result = .ok (.complete n) →
      later.result = .ok (.complete n) ∧ later.transfer = reply.transfer ∧ later.events = []) ∧
    ∀ error, reply.result = .error error →
      later.result = .error .closed ∧ later.transfer = reply.transfer ∧ later.events = []

/-- What answers show of a transfer, and what it is after them. -/
structure Answered (replies : List (Reply σ)) (last : Transfer σ) : Prop where
  /-- An answer that ends the transfer is final. -/
  final : replies.Pairwise Lasts
  /-- A failed transfer has reported once, with the error that it then gave, all of its state. -/
  failed : last.phase = .failed → ∃ reply ∈ replies, ∃ error, reply.result = .error error ∧
    reply.reports = [last.report error] ∧ replies.flatMap Reply.reports = [last.report error]
  /-- No other transfer has. -/
  silent : last.phase ≠ .failed → replies.flatMap Reply.reports = []

/-! ### Calls on a transfer that has ended -/

omit [RowSink σ] in
theorem events_idle (t : Transfer σ) : t.idle.events = [] := by
  unfold idle
  split <;> rfl

omit [RowSink σ] in
theorem agrees_idle (t : Transfer σ) : t.idle.Agrees := by
  cases phase : t.phase with
  | running =>
      simp only [idle, phase]
      exact .inl ⟨rfl, phase⟩
  | complete =>
      simp only [idle, phase]
      exact .inr (.inl ⟨rfl, phase⟩)
  | failed =>
      simp only [idle, phase]
      exact .inr (.inr ⟨.closed, rfl, phase⟩)

omit [RowSink σ] in
theorem lasts_idle {reply : Reply σ} (agrees : reply.Agrees) : Lasts reply reply.transfer.idle := by
  have same : reply.transfer.idle.transfer = reply.transfer := transfer_idle _
  have none : reply.transfer.idle.events = [] := events_idle _
  constructor
  · intro n complete
    exact ⟨idle_of_agrees agrees complete, same, none⟩
  · intro error failed
    refine ⟨?_, same, none⟩
    simp only [idle, agrees.failed failed]

/-- A transfer that has ended answers each call with what it is. -/
theorem call_of_ended (ended : t.phase ≠ .running) (c : Call) : t.call c = t.idle := by
  cases c with
  | feed packet =>
      show t.feed packet = t.idle
      cases phase : t.phase with
      | running => exact absurd phase ended
      | complete => simp only [feed_of_complete phase, idle, phase]
      | failed => simp only [feed_of_failed phase, idle, phase]
  | retryPending =>
      show t.retryPending = t.idle
      rw [retryPending_of_quiet]
      rintro ⟨running, -⟩
      exact ended running

theorem replies_of_ended (ended : t.phase ≠ .running) (calls : List Call) :
    t.replies calls = List.replicate calls.length t.idle := by
  induction calls with
  | nil => rfl
  | cons c rest ih =>
      rw [replies, call_of_ended ended, transfer_idle, ih]
      rfl

theorem transfer_run_of_ended (ended : t.phase ≠ .running) (calls : List Call) :
    (t.run calls).transfer = t := by
  rw [transfer_run]
  exact transfer_feeds_of_ended ended _

/-! ### Errors are reported -/

theorem reported_advance (t : Transfer σ) : t.advance.Reported := by
  induction t using advance_induction with
  | stop t reply turn =>
      have reported := t.turn_reported
      rw [turn] at reported
      rw [advance_of_stop turn]
      exact reported
  | again t t' events turn ih =>
      have none := t.turn_reported
      rw [turn] at none
      rw [advance_of_again turn]
      exact ih.after none

theorem reported_feed (running : t.phase = .running) (packet : Bytes) : (t.feed packet).Reported := by
  rw [feed_of_running running]
  split
  · exact reported_fail _ _
  · exact reported_advance _

omit [RowSink σ] in
/-- A transfer that has not failed has nothing to report when it has nothing to do. -/
theorem reported_idle {progress : Progress} (answer : t.idle.result = .ok progress) :
    t.idle.Reported := by
  rw [Reply.Reported, Reply.reports, events_idle, answer]
  rfl

theorem agrees_retryPending (t : Transfer σ) : t.retryPending.Agrees := by
  induction t using retryPending_induction with
  | failed t error pending failed =>
      rw [retryPending_of_error pending failed]
      exact .inr (.inr ⟨error, rfl, (agrees_feed t []).failed failed⟩)
  | round t progress pending answer lower ih =>
      rw [retryPending_of_round pending answer lower]
      exact ih
  | stuck t progress pending answer stuck =>
      rw [retryPending_of_stuck pending answer stuck]
      exact agrees_idle _
  | quiet t quiet =>
      rw [retryPending_of_quiet quiet]
      exact agrees_idle t

theorem agrees_call (t : Transfer σ) (c : Call) : (t.call c).Agrees := by
  cases c with
  | feed packet => exact agrees_feed t packet
  | retryPending => exact agrees_retryPending t

/-- Retrying passes on the report of the packet that failed, and no round before it has one. -/
theorem reported_retryPending (whole : ∃ progress, t.idle.result = .ok progress) :
    t.retryPending.Reported := by
  induction t using retryPending_induction with
  | failed t error pending failed =>
      have reported := reported_feed pending.1 []
      rw [Reply.Reported, failed] at reported
      rw [retryPending_of_error pending failed]
      exact reported
  | round t progress pending answer lower ih =>
      have none : (t.feed []).reports = [] := (reported_feed pending.1 []).none_of_ok answer
      rw [retryPending_of_round pending answer lower]
      exact (ih ⟨progress, idle_of_agrees (agrees_feed t []) answer⟩).after none
  | stuck t progress pending answer stuck =>
      have none : (t.feed []).reports = [] := (reported_feed pending.1 []).none_of_ok answer
      rw [retryPending_of_stuck pending answer stuck]
      exact (reported_idle (idle_of_agrees (agrees_feed t []) answer)).after none
  | quiet t quiet =>
      obtain ⟨progress, answer⟩ := whole
      rw [retryPending_of_quiet quiet]
      exact reported_idle answer

theorem reported_call (running : t.phase = .running) (c : Call) : (t.call c).Reported := by
  cases c with
  | feed packet => exact reported_feed running packet
  | retryPending =>
      have answer : t.idle.result = .ok .more := by simp only [idle, running]
      exact reported_retryPending ⟨.more, answer⟩

/-! ### All answers of a run -/

namespace Answered

variable {reply : Reply σ} {later : List (Reply σ)} {last : Transfer σ}

omit [RowSink σ] in
/-- Before an answer that leaves the transfer running nothing was final, and nothing was reported. -/
theorem cons_of_more (answered : Answered later last) (more : reply.result = .ok .more)
    (reported : reply.Reported) : Answered (reply :: later) last := by
  have none : reply.reports = [] := reported.none_of_ok more
  constructor
  · rw [List.pairwise_cons]
    refine ⟨?_, answered.final⟩
    intro other _
    constructor
    · intro n complete
      rw [more] at complete
      cases complete
    · intro error failed
      rw [more] at failed
      cases failed
  · intro failed
    obtain ⟨other, member, error, answer, report, only⟩ := answered.failed failed
    refine ⟨other, .tail _ member, error, answer, report, ?_⟩
    rw [List.flatMap_cons, none, only]
    rfl
  · intro whole
    rw [List.flatMap_cons, none, answered.silent whole]
    rfl

omit [RowSink σ] in
/-- An answer that ends the transfer, and whatever is answered after it. -/
theorem cons_of_ended (agrees : reply.Agrees) (ended : reply.transfer.phase ≠ .running)
    (reported : reply.Reported) (calls : Nat) :
    Answered (reply :: List.replicate calls reply.transfer.idle) reply.transfer := by
  have none : (List.replicate calls reply.transfer.idle).flatMap Reply.reports = [] := by
    rw [List.flatMap_eq_nil_iff]
    intro other member
    rw [List.eq_of_mem_replicate member, Reply.reports, events_idle]
    rfl
  constructor
  · rw [List.pairwise_cons]
    constructor
    · intro other member
      rw [List.eq_of_mem_replicate member]
      exact lasts_idle agrees
    · rw [List.pairwise_replicate]
      have again := lasts_idle reply.transfer.agrees_idle
      rw [transfer_idle] at again
      exact .inr again
  · intro failed
    rcases agrees with ⟨-, running⟩ | ⟨-, complete⟩ | ⟨error, answer, -⟩
    · exact absurd running ended
    · rw [failed] at complete
      cases complete
    · rw [Reply.Reported, answer] at reported
      refine ⟨reply, .head _, error, answer, reported, ?_⟩
      rw [List.flatMap_cons, none, List.append_nil]
      exact reported
  · intro whole
    rw [List.flatMap_cons, none, List.append_nil]
    rcases agrees with ⟨more, -⟩ | ⟨complete, -⟩ | ⟨-, -, failed⟩
    · exact reported.none_of_ok more
    · exact reported.none_of_ok complete
    · exact absurd failed whole

theorem of_run (running : t.phase = .running) (calls : List Call) :
    Answered (t.replies calls) (t.run calls).transfer := by
  induction calls generalizing t with
  | nil =>
      refine ⟨.nil, ?_, fun _ => rfl⟩
      intro failed
      have failed' : t.phase = .failed := failed
      rw [running] at failed'
      cases failed'
  | cons c rest ih =>
      have agrees := agrees_call t c
      have reported := reported_call running c
      show Answered (t.call c :: (t.call c).transfer.replies rest) ((t.call c).transfer.run rest).transfer
      by_cases running' : (t.call c).transfer.phase = .running
      · exact (ih running').cons_of_more (agrees.more running') reported
      · rw [replies_of_ended running', transfer_run_of_ended running']
        exact cons_of_ended agrees running' reported _

end Answered

/-- The life of a fresh transfer over any run of calls, with a sink that may refuse any of them. Noting what
    reaches the sink changes no answer. -/
theorem run_lifeCycle (settings : Settings) (registry : Registry) (codec : RecordCodec) (sink : σ)
    (calls : List Call) :
    let t := ofCodec settings registry codec ({ sink } : Noted σ)
    let last := (t.run calls).transfer
    (ofCodec settings registry codec sink).run calls
        = { results := (t.replies calls).map (·.result), transfer := last.mapSink Noted.sink } ∧
      Answered (t.replies calls) last ∧
      SinkUse (t.passesOver (t.packetsOf calls)) last := by
  intro t last
  have fresh : SinkUse [] t := .nil rfl nofun
  have forgotten := run_mapSink Noted.respects_sink t calls
  rw [← results_replies] at forgotten
  refine ⟨forgotten, .of_run rfl calls, ?_⟩
  show SinkUse _ (t.run calls).transfer
  rw [transfer_run]
  exact fresh.of_feeds rfl _

end Transfer

end SensorLog
