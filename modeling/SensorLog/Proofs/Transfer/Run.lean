import SensorLog.Proofs.Transfer.Turn

/-!
# Runs of a transfer

A `Run` is what a sequence of calls gives: one result for each call, and the transfer after all of
them. Once a transfer has ended, each later call repeats one answer and changes nothing.
-/

namespace SensorLog

/-- A call on a transfer. -/
inductive Call
  | feed (packet : Bytes)
  | retryPending
deriving DecidableEq, Repr

/-- The results of calls, first call first, and the transfer after them. -/
structure Run (σ : Type) where
  results : List (Except TransferError Progress)
  transfer : Transfer σ

/-- Whether a result leaves the transfer waiting for packets. -/
def isMore : Except TransferError Progress → Bool
  | .ok .more => true
  | _ => false

/-- The error of a packet for which there was no room. -/
def NoRoom (result : Except TransferError Progress) : Prop :=
  ∃ capacity, result = .error (.frame (.bufferFull capacity))

/-- The first result that is not "more". -/
def Run.answer? {σ : Type} (run : Run σ) : Option (Except TransferError Progress) :=
  run.results.find? fun result => !isMore result

/-- The answer fits the phase: "more" while running, the number of entries when complete. -/
def Reply.Agrees {σ : Type} (reply : Reply σ) : Prop :=
  (reply.result = .ok .more ∧ reply.transfer.phase = .running) ∨
    (reply.result = .ok (.complete reply.transfer.entries) ∧ reply.transfer.phase = .complete) ∨
    ∃ error, reply.result = .error error ∧ reply.transfer.phase = .failed

namespace Reply.Agrees

variable {σ : Type} {reply : Reply σ}

theorem running (agrees : reply.Agrees) (more : reply.result = .ok .more) :
    reply.transfer.phase = .running := by
  rcases agrees with ⟨-, running⟩ | ⟨complete, -⟩ | ⟨error, failed, -⟩
  · exact running
  · rw [more] at complete
    cases complete
  · rw [more] at failed
    cases failed

theorem more (agrees : reply.Agrees) (running : reply.transfer.phase = .running) :
    reply.result = .ok .more := by
  rcases agrees with ⟨more, -⟩ | ⟨-, complete⟩ | ⟨error, -, failed⟩
  · exact more
  · rw [running] at complete
    cases complete
  · rw [running] at failed
    cases failed

theorem failed (agrees : reply.Agrees) {error : TransferError} (answer : reply.result = .error error) :
    reply.transfer.phase = .failed := by
  rcases agrees with ⟨more, -⟩ | ⟨complete, -⟩ | ⟨error', -, failed⟩
  · rw [answer] at more
    cases more
  · rw [answer] at complete
    cases complete
  · exact failed

theorem complete (agrees : reply.Agrees) {entries : Nat} (answer : reply.result = .ok (.complete entries)) :
    reply.transfer.phase = .complete := by
  rcases agrees with ⟨more, -⟩ | ⟨-, complete⟩ | ⟨error, failed, -⟩
  · rw [answer] at more
    cases more
  · exact complete
  · rw [answer] at failed
    cases failed

/-- An answer that is no error leaves the transfer open. -/
theorem unfailed (agrees : reply.Agrees) {progress : Progress} (answer : reply.result = .ok progress) :
    reply.transfer.phase ≠ .failed := by
  intro failed
  rcases agrees with ⟨-, running⟩ | ⟨-, complete⟩ | ⟨error, refused, -⟩
  · rw [failed] at running
    cases running
  · rw [failed] at complete
    cases complete
  · rw [answer] at refused
    cases refused

end Reply.Agrees

namespace Transfer

variable {σ : Type} [RowSink σ]

/-- Makes a call. -/
def call (t : Transfer σ) : Call → Reply σ
  | .feed packet => t.feed packet
  | .retryPending => t.retryPending

/-- Makes calls one after another. -/
def run (t : Transfer σ) : List Call → Run σ
  | [] => { results := [], transfer := t }
  | c :: rest =>
    let reply := t.call c
    let later := reply.transfer.run rest
    { results := reply.result :: later.results, transfer := later.transfer }

/-- Feeds packets one after another. -/
def feeds (t : Transfer σ) (packets : List Bytes) : Run σ :=
  t.run (packets.map .feed)

theorem feeds_cons (t : Transfer σ) (packet : Bytes) (rest : List Bytes) :
    t.feeds (packet :: rest) =
      { results := (t.feed packet).result :: ((t.feed packet).transfer.feeds rest).results
        transfer := ((t.feed packet).transfer.feeds rest).transfer } := rfl

/-- A transfer that has ended takes no notice of a packet. -/
theorem feed_of_ended {t : Transfer σ} (ended : t.phase ≠ .running) (packet : Bytes) :
    (t.feed packet).transfer = t ∧ ((t.feed packet).result = .ok (.complete t.entries) ∨
      (t.feed packet).result = .error .closed) := by
  cases phase : t.phase with
  | running => exact absurd phase ended
  | complete =>
      rw [feed_of_complete phase]
      exact ⟨rfl, .inl rfl⟩
  | failed =>
      rw [feed_of_failed phase]
      exact ⟨rfl, .inr rfl⟩

theorem transfer_feeds_of_ended {t : Transfer σ} (ended : t.phase ≠ .running) (packets : List Bytes) :
    (t.feeds packets).transfer = t := by
  induction packets with
  | nil => rfl
  | cons packet rest ih =>
      obtain ⟨same, -⟩ := feed_of_ended ended packet
      rw [feeds_cons, same]
      exact ih

/-! ## The answer tells the phase -/

omit [RowSink σ] in
theorem agrees_fail (t : Transfer σ) (error : TransferError) : (t.fail error).Agrees :=
  .inr (.inr ⟨error, rfl, rfl⟩)

theorem agrees_finish (t : Transfer σ) : t.finish.Agrees := by
  rcases t.finish_cases with ⟨sink, -, finished⟩ | ⟨sink, cause, -, failed⟩
  · rw [finished]
    exact .inr (.inl ⟨rfl, rfl⟩)
  · rw [failed]
    exact agrees_fail _ _

theorem agrees_of_stop {t : Transfer σ} {reply : Reply σ} (running : t.phase = .running)
    (turn : t.turn = .stop reply) : reply.Agrees := by
  cases case_of_turn turn with
  | limit reached events => exact t.agrees_finish
  | starved below outcome events => exact .inl ⟨rfl, running⟩
  | broken cause below outcome events => exact .inr (.inr ⟨_, rfl, rfl⟩)
  | ended below outcome events => exact t.decoded.agrees_finish
  | unknownColumn record cause below outcome unknown events => exact .inr (.inr ⟨_, rfl, rfl⟩)
  | refused record values sink cause below outcome converted answer events =>
      exact .inr (.inr ⟨_, rfl, rfl⟩)
  | retry cause below outcome within events => exact .inl ⟨rfl, running⟩
  | exhausted cause below outcome spent events => exact .inr (.inr ⟨_, rfl, rfl⟩)

theorem phase_of_again {t t' : Transfer σ} {events : List Event} (turn : t.turn = .again t' events) :
    t'.phase = t.phase := by
  cases case_of_turn turn with
  | written => rfl

theorem agrees_advance {t : Transfer σ} (running : t.phase = .running) : t.advance.Agrees := by
  induction t using advance_induction with
  | stop t reply turn =>
      rw [advance_of_stop turn]
      exact agrees_of_stop running turn
  | again t t' events turn ih =>
      rw [advance_of_again turn]
      exact ih ((phase_of_again turn).trans running)

theorem agrees_feed (t : Transfer σ) (packet : Bytes) : (t.feed packet).Agrees := by
  cases phase : t.phase with
  | running =>
      rw [feed_of_running phase]
      split
      · exact agrees_fail _ _
      · exact agrees_advance phase
  | complete =>
      rw [feed_of_complete phase]
      exact .inr (.inl ⟨rfl, phase⟩)
  | failed =>
      rw [feed_of_failed phase]
      exact .inr (.inr ⟨.closed, rfl, phase⟩)

omit [RowSink σ] in
/-- A transfer that has just given an answer gives it again when it has nothing to do. -/
theorem idle_of_agrees {reply : Reply σ} {progress : Progress} (agrees : reply.Agrees)
    (answer : reply.result = .ok progress) : reply.transfer.idle.result = .ok progress := by
  rcases agrees with ⟨more, phase⟩ | ⟨complete, phase⟩ | ⟨error, failed, -⟩
  · rw [← answer, more]
    simp only [idle, phase]
  · rw [← answer, complete]
    simp only [idle, phase]
  · rw [failed] at answer
    cases answer

end Transfer

end SensorLog
