import SensorLog.Proofs.Transfer.LifeCycle
import SensorLog.Proofs.Transfer.Lockstep
import SensorLog.Transfer.Drive

/-!
# What a driver's result says

A driver waits for the next event of its source: a packet, the end of the source, or a cancellation, which
may be seen at any moment (`Seen`). `Driven` tells how it comes to its result from what it saw, without the
recursion of the loop: a packet is answered with something else than "more", or all packets are fed and the
source ends. The result then tells in which phase the transfer is left (`drive_tells`), for every transfer
that calls can lead to.
-/

namespace SensorLog

variable {σ : Type}

/-! ## Sources -/

/-- What a driver can see of a source that sends packets and then comes to its end, event by event. -/
inductive Seen (final : Ending) : (sent packets : List Bytes) → Ending → Prop
  | ended : Seen final [] [] final
  | cancelled (sent : List Bytes) : Seen final sent [] .cancelled
  | packet {sent packets : List Bytes} {ending : Ending} (next : Bytes) (later : Seen final sent packets ending) :
      Seen final (next :: sent) (next :: packets) ending

theorem Seen.isPrefix {final ending : Ending} {sent packets : List Bytes} (seen : Seen final sent packets ending) :
    packets <+: sent := by
  induction seen with
  | ended => exact List.prefix_rfl
  | cancelled sent => exact List.nil_prefix
  | packet next later ih => exact (List.prefix_cons_inj next).2 ih

/-! ## Errors -/

/-- The error is that the source ended before the transfer did. -/
def TransferError.Early (error : TransferError) : Prop :=
  error = .cancelled ∨ error = .disconnected ∨ ∃ limit, error = .timeout limit

namespace Transfer

variable [RowSink σ] {t : Transfer σ} {error : TransferError}

/-- The error is one of the data, or one of a sink that can fail. -/
def Fatal (t : Transfer σ) (error : TransferError) : Prop :=
  (∃ cause, error = .frame cause) ∨ (∃ cause, error = .sink cause) ∧ ¬ RowSink.NeverFails t.sink

theorem Fatal.not_early (fatal : t.Fatal error) : ¬ error.Early := by
  rcases fatal with ⟨cause, rfl⟩ | ⟨⟨cause, rfl⟩, -⟩
  · rintro (cancelled | disconnected | ⟨limit, late⟩) <;> contradiction
  · rintro (cancelled | disconnected | ⟨limit, late⟩) <;> contradiction

/-- What a sink does later it could do before. -/
theorem Fatal.of_reaches {t' : Transfer σ} (fatal : t'.Fatal error) (reaches : t.Reaches t') : t.Fatal error := by
  obtain ⟨calls, after⟩ := reaches
  rcases fatal with frame | ⟨sink, fails⟩
  · exact .inl frame
  · refine .inr ⟨sink, ?_⟩
    intro faithful
    apply fails
    rw [after]
    exact faithful.after calls

theorem Fatal.of_call {sink : σ} {cause : IoError} (c : SinkCall)
    (answer : RowSink.call t.sink c = (sink, .error cause)) : t.Fatal (.sink cause) := by
  refine .inr ⟨⟨cause, rfl⟩, ?_⟩
  intro faithful
  have granted := faithful.call c
  rw [answer] at granted
  cases granted

theorem fatal_of_finish (failed : t.finish.result = .error error) : t.Fatal error := by
  rcases t.finish_cases with ⟨sink, -, whole⟩ | ⟨sink, cause, answer, refused⟩
  · rw [whole] at failed
    cases failed
  · rw [refused] at failed
    cases failed
    exact .of_call .flush answer

theorem fatal_of_stop {reply : Reply σ} (turn : t.turn = .stop reply) (failed : reply.result = .error error) :
    t.Fatal error := by
  cases case_of_turn turn with
  | limit reached events => exact fatal_of_finish failed
  | ended below outcome events => exact fatal_of_finish (t := t.decoded) failed
  | refused record values sink cause below outcome converted answer events =>
      cases failed
      exact .of_call (.write (t.rowOf record values)) answer
  | broken cause below outcome events =>
      cases failed
      exact .inl ⟨cause, rfl⟩
  | unknownColumn record cause below outcome unknown events =>
      cases failed
      exact .inl ⟨_, rfl⟩
  | exhausted cause below outcome spent events =>
      cases failed
      exact .inl ⟨_, rfl⟩
  | starved below outcome events => cases failed
  | retry cause below outcome within events => cases failed

theorem fatal_of_advance (failed : t.advance.result = .error error) : t.Fatal error := by
  induction t using advance_induction with
  | stop t reply turn =>
      rw [advance_of_stop turn] at failed
      exact fatal_of_stop turn failed
  | again t t' events turn ih =>
      rw [advance_of_again turn] at failed
      exact (ih failed).of_reaches (reaches_of_again turn)

theorem fatal_of_feed (unfailed : t.phase ≠ .failed) {packet : Bytes}
    (failed : (t.feed packet).result = .error error) : t.Fatal error := by
  cases phase : t.phase with
  | running =>
      rw [feed_of_running phase] at failed
      cases accepted : t.reader.write packet with
      | error cause =>
          rw [accepted] at failed
          cases failed
          exact .inl ⟨cause, rfl⟩
      | ok reader =>
          rw [accepted] at failed
          exact fatal_of_advance (t := { t with reader }) failed
  | complete =>
      rw [feed_of_complete phase] at failed
      cases failed
  | failed => exact absurd phase unfailed

theorem fatal_of_retryPending (unfailed : t.phase ≠ .failed) (failed : t.retryPending.result = .error error) :
    t.Fatal error := by
  have idle (t : Transfer σ) (unfailed : t.phase ≠ .failed) : t.idle.result ≠ .error error := by
    intro failed
    have phase := (agrees_idle t).failed failed
    rw [transfer_idle] at phase
    exact unfailed phase
  induction t using retryPending_induction with
  | failed t error' pending answer =>
      rw [retryPending_of_error pending answer] at failed
      cases failed
      exact fatal_of_feed unfailed answer
  | round t progress pending answer lower ih =>
      rw [retryPending_of_round pending answer lower] at failed
      exact (ih ((agrees_feed t []).unfailed answer) failed).of_reaches (t.reaches_feed [])
  | stuck t progress pending answer stuck =>
      rw [retryPending_of_stuck pending answer stuck] at failed
      exact absurd failed (idle _ ((agrees_feed t []).unfailed answer))
  | quiet t quiet =>
      rw [retryPending_of_quiet quiet] at failed
      exact absurd failed (idle t unfailed)

/-! ## The loop -/

/-- A result of the transfer that a driver passes on. -/
inductive PassedOn : Except TransferError Progress → Except TransferError Nat → Prop
  | error (error : TransferError) : PassedOn (.error error) (.error error)
  | complete (n : Nat) : PassedOn (.ok (.complete n)) (.ok n)

theorem PassedOn.eq_error {result : Except TransferError Progress} {result' : Except TransferError Nat}
    (answer : PassedOn result result') (failed : result' = .error error) : result = .error error := by
  cases answer with
  | error error' =>
      cases failed
      rfl
  | complete n => cases failed

/-- How a driver that sees packets and then an ending comes to its result, and which packets it takes. -/
inductive Driven (t : Transfer σ) (packets : List Bytes) (ending : Ending) (d : Drive σ) : List Bytes → Prop
  /-- All packets before this one are answered with "more". What comes behind it is not looked at. -/
  | answered (before : List Bytes) (packet : Bytes) (left : List Bytes)
      (order : packets = before ++ packet :: left)
      (waited : ∀ result ∈ (t.feeds before).results, result = .ok .more)
      (answer : PassedOn ((t.feeds before).transfer.feed packet).result d.result)
      (transfer : d.transfer = (t.feeds (before ++ [packet])).transfer)
      (unseen : ∀ others ending', t.drive (before ++ packet :: others) ending' = d) :
      Driven t packets ending d (before ++ [packet])
  /-- The source ends behind packets that are all answered with "more", and the transfer retries. -/
  | settled (error : TransferError)
      (ends : (ending = .closed ∧ error = .disconnected) ∨
        ∃ limit, ending = .quiet limit ∧ error = .timeout limit)
      (waited : ∀ result ∈ (t.feeds packets).results, result = .ok .more)
      (answer : ((t.feeds packets).transfer.retryPending.result = .ok .more ∧ d.result = .error error) ∨
        PassedOn (t.feeds packets).transfer.retryPending.result d.result)
      (transfer : d.transfer = (t.feeds packets).transfer.retryPending.transfer) :
      Driven t packets ending d packets
  /-- The cancellation is seen behind packets that are all answered with "more"; nothing is fed after that. -/
  | cancelled (ends : ending = .cancelled)
      (waited : ∀ result ∈ (t.feeds packets).results, result = .ok .more)
      (answer : d.result = .error .cancelled) (transfer : d.transfer = (t.feeds packets).transfer) :
      Driven t packets ending d packets

/-- Packets that are answered with "more" leave a running transfer running. -/
theorem running_of_waited (running : t.phase = .running) {packets : List Bytes}
    (waited : ∀ result ∈ (t.feeds packets).results, result = .ok .more) :
    (t.feeds packets).transfer.phase = .running := by
  induction packets generalizing t with
  | nil => exact running
  | cons packet rest ih =>
      rw [feeds_cons] at waited ⊢
      have first : (t.feed packet).result = .ok .more := waited _ (.head _)
      exact ih ((agrees_feed t packet).running first) fun result member => waited result (.tail _ member)

theorem open_of_waited (running : t.phase = .running) {packets : List Bytes}
    (waited : ∀ result ∈ (t.feeds packets).results, result = .ok .more) :
    (t.feeds packets).transfer.phase ≠ .failed := by
  rw [running_of_waited running waited]
  exact nofun

/-- A driver goes on behind packets that are answered with "more" as if it began there. -/
theorem driveFrom_of_waited {before : List Bytes}
    (waited : ∀ result ∈ (t.feeds before).results, result = .ok .more) (received : Nat) :
    ∃ events, ∀ ending rest, t.driveFrom received ending (before ++ rest)
      = ((t.feeds before).transfer.driveFrom (received + before.length) ending rest).after events := by
  induction before generalizing t received with
  | nil => exact ⟨[], fun ending rest => rfl⟩
  | cons packet before ih =>
      rw [feeds_cons] at waited ⊢
      have first : (t.feed packet).result = .ok .more := waited _ (.head _)
      obtain ⟨events, later⟩ := ih (fun result member => waited result (.tail _ member)) (received + 1)
      refine ⟨(t.feed packet).events ++ events, ?_⟩
      intro ending rest
      have count : received + 1 + before.length = received + (before.length + 1) := by omega
      rw [List.cons_append, driveFrom]
      simp only [first, later, count, Drive.after, List.append_assoc, List.length_cons]

/-- Either all packets are answered with "more", or there is a first one that is not. -/
theorem first_answer (t : Transfer σ) (packets : List Bytes) :
    (∀ result ∈ (t.feeds packets).results, result = .ok .more) ∨
      ∃ before packet left, packets = before ++ packet :: left ∧
        (∀ result ∈ (t.feeds before).results, result = .ok .more) ∧
        ((t.feeds before).transfer.feed packet).result ≠ .ok .more := by
  induction packets generalizing t with
  | nil => exact .inl nofun
  | cons packet rest ih =>
      by_cases more : (t.feed packet).result = .ok .more
      · rcases ih (t.feed packet).transfer with waited | ⟨before, next, left, order, waited, answer⟩
        · exact .inl (List.forall_mem_cons.2 ⟨more, waited⟩)
        · refine .inr ⟨packet :: before, next, left, ?_, List.forall_mem_cons.2 ⟨more, waited⟩, answer⟩
          rw [order, List.cons_append]
      · exact .inr ⟨[], packet, rest, rfl, nofun, more⟩

/-- A packet that is not answered with "more" ends the loop, whatever is behind it. -/
theorem driveFrom_of_answered {packet : Bytes} (answer : (t.feed packet).result ≠ .ok .more) (received : Nat) :
    ∃ d, d.transfer = (t.feed packet).transfer ∧ PassedOn (t.feed packet).result d.result ∧
      ∀ ending rest, t.driveFrom received ending (packet :: rest) = d := by
  rcases result : (t.feed packet).result with error | (_ | n)
  · refine ⟨{ result := .error error, transfer := (t.feed packet).transfer, events := (t.feed packet).events },
      rfl, .error error, ?_⟩
    intro ending rest
    rw [driveFrom]
    simp only [result]
  · exact absurd result answer
  · refine ⟨{ result := .ok n, transfer := (t.feed packet).transfer, events := (t.feed packet).events },
      rfl, .complete n, ?_⟩
    intro ending rest
    rw [driveFrom]
    simp only [result]

/-- Settling retries; if there is nothing to retry it changes nothing. -/
theorem settle_eq (running : t.phase = .running) (error : TransferError) :
    (t.settle error).transfer = t.retryPending.transfer ∧
      ((t.retryPending.result = .ok .more ∧ (t.settle error).result = .error error) ∨
        PassedOn t.retryPending.result (t.settle error).result) := by
  unfold settle
  by_cases none : t.retries.failures = 0
  · have quiet : ¬ (t.phase = .running ∧ 0 < t.retries.failures) := by
      rintro ⟨-, failed⟩
      omega
    have idle : t.idle = { result := .ok .more, transfer := t } := by simp only [idle, running]
    rw [if_pos none, retryPending_of_quiet quiet, idle]
    exact ⟨rfl, .inl ⟨rfl, rfl⟩⟩
  · rw [if_neg none]
    dsimp only
    rcases t.retryPending.result with error' | (_ | n)
    · exact ⟨rfl, .inr (.error error')⟩
    · exact ⟨rfl, .inl ⟨rfl, rfl⟩⟩
    · exact ⟨rfl, .inr (.complete n)⟩

theorem driven_drive (running : t.phase = .running) (packets : List Bytes) (ending : Ending) :
    ∃ taken left, packets = taken ++ left ∧ Driven t packets ending (t.drive packets ending) taken := by
  rcases t.first_answer packets with waited | ⟨before, packet, left, order, waited, answer⟩
  · obtain ⟨events, passed⟩ := driveFrom_of_waited waited 0
    have ended : t.drive packets ending = ((t.feeds packets).transfer.conclude (0 + packets.length) ending).after
        events := by
      have whole := passed ending []
      rwa [List.append_nil] at whole
    have running' := running_of_waited running waited
    refine ⟨packets, [], (List.append_nil packets).symm, ?_⟩
    rw [ended]
    cases ending with
    | closed =>
        obtain ⟨transfer, answer⟩ := settle_eq running' .disconnected
        exact .settled .disconnected (.inl ⟨rfl, rfl⟩) waited answer transfer
    | quiet limit =>
        obtain ⟨transfer, answer⟩ := settle_eq running' (.timeout limit)
        exact .settled (.timeout limit) (.inr ⟨limit, rfl, rfl⟩) waited answer transfer
    | cancelled => exact .cancelled rfl waited rfl rfl
  · obtain ⟨events, passed⟩ := driveFrom_of_waited waited 0
    obtain ⟨d, transfer, result, same⟩ := driveFrom_of_answered answer (0 + before.length)
    have ended (others : List Bytes) (ending' : Ending) :
        t.drive (before ++ packet :: others) ending' = d.after events := by
      rw [drive, passed, same]
    refine ⟨before ++ [packet], left, ?_, ?_⟩
    · rw [order, List.append_assoc]
      rfl
    · rw [order, ended]
      refine .answered before packet left rfl waited result ?_ ended
      rw [feeds_append]
      exact transfer

end Transfer

/-! ## What the result says -/

/-- The result of a driver fits the transfer that it leaves: a number of entries if it is complete, an early
    end of the source if it is still running, another error if it has failed. -/
structure Drive.Tells (d : Drive σ) : Prop where
  complete : ∀ n, d.result = .ok n ↔ d.transfer.phase = .complete ∧ n = d.transfer.entries
  running : (∃ error, d.result = .error error ∧ error.Early) ↔ d.transfer.phase = .running
  failed : (∃ error, d.result = .error error ∧ ¬ error.Early) ↔ d.transfer.phase = .failed

namespace Drive.Tells

variable {d : Drive σ}

theorem of_complete {n : Nat} (answer : d.result = .ok n) (phase : d.transfer.phase = .complete)
    (entries : n = d.transfer.entries) : d.Tells where
  complete := by
    intro m
    rw [answer, Except.ok.injEq]
    constructor
    · rintro rfl
      exact ⟨phase, entries⟩
    · rintro ⟨-, rfl⟩
      exact entries
  running := by simp only [answer, phase, reduceCtorEq, false_and, exists_false]
  failed := by simp only [answer, phase, reduceCtorEq, false_and, exists_false]

theorem of_early {error : TransferError} (answer : d.result = .error error) (early : error.Early)
    (phase : d.transfer.phase = .running) : d.Tells where
  complete := by simp only [answer, phase, reduceCtorEq, false_and, implies_true]
  running := ⟨fun _ => phase, fun _ => ⟨error, answer, early⟩⟩
  failed := by
    rw [answer, phase]
    constructor
    · rintro ⟨other, same, late⟩
      cases same
      exact absurd early late
    · exact nofun

theorem of_late {error : TransferError} (answer : d.result = .error error) (late : ¬ error.Early)
    (phase : d.transfer.phase = .failed) : d.Tells where
  complete := by simp only [answer, phase, reduceCtorEq, false_and, implies_true]
  running := by
    rw [answer, phase]
    constructor
    · rintro ⟨other, same, early⟩
      cases same
      exact absurd early late
    · exact nofun
  failed := ⟨fun _ => phase, fun _ => ⟨error, answer, late⟩⟩

/-- An answer that is passed on tells the phase, since the transfer's own answers do. -/
theorem of_passedOn {reply : Reply σ} (agrees : reply.Agrees)
    (late : ∀ error, reply.result = .error error → ¬ error.Early)
    (answer : Transfer.PassedOn reply.result d.result) (transfer : d.transfer = reply.transfer) : d.Tells := by
  generalize given : d.result = result at answer
  rcases agrees with ⟨more, -⟩ | ⟨complete, phase⟩ | ⟨error, failed, phase⟩
  · rw [more] at answer
    cases answer
  · rw [complete] at answer
    cases answer
    exact of_complete given (by rw [transfer, phase]) (by rw [transfer])
  · rw [failed] at answer
    cases answer
    exact of_late given (late error failed) (by rw [transfer, phase])

end Drive.Tells

namespace Transfer

variable [RowSink σ]

/-- The transfers that calls lead to. Between calls the sink may be exchanged. -/
inductive Reached (settings : Settings) (registry : Registry) (codec : RecordCodec) : Transfer σ → Prop
  | fresh (sink : σ) : Reached settings registry codec (ofCodec settings registry codec sink)
  | call {t : Transfer σ} (c : Call) (earlier : Reached settings registry codec t) :
      Reached settings registry codec (t.call c).transfer
  | sink {t : Transfer σ} (sink : σ) (earlier : Reached settings registry codec t) :
      Reached settings registry codec { t with sink }

variable {t : Transfer σ} {settings : Settings} {registry : Registry} {codec : RecordCodec}

theorem Reached.sound (reached : Reached settings registry codec t) : Sound settings.plan t := by
  induction reached with
  | fresh sink => exact .fresh settings registry codec sink
  | call c earlier sound => exact sound.run [c]
  | sink sink earlier sound => exact ⟨sound.plan_eq, sound.reader, sound.budget, sound.waiting⟩

/-- Retrying that leaves a transfer waiting has tried every order that was left. -/
theorem Sound.no_failures_of_retryPending {plan : RetryPlan} (sound : Sound plan t)
    (more : t.retryPending.result = .ok .more) :
    t.retryPending.transfer.phase = .running ∧ t.retryPending.transfer.retries.failures = 0 := by
  rcases sound.settles.settled with ⟨-, running, none⟩ | ⟨complete, -⟩ | ⟨error, failed, -⟩
  · exact ⟨running, none⟩
  · rw [more] at complete
    cases complete
  · rw [more] at failed
    cases failed

/-- What an early end of the source finds: it is the one that was seen, behind all packets. A cancellation
    leaves it at that; otherwise nothing is left to retry. -/
structure EndsEarly (t : Transfer σ) (packets : List Bytes) (ending : Ending) (d : Drive σ) : Prop where
  cancelled : d.result = .error .cancelled → ending = .cancelled ∧ d.transfer = (t.feeds packets).transfer
  disconnected : d.result = .error .disconnected → ending = .closed ∧ d.transfer.retries.failures = 0
  timeout : ∀ limit, d.result = .error (.timeout limit) →
    ending = .quiet limit ∧ d.transfer.retries.failures = 0

namespace EndsEarly

variable {packets : List Bytes} {ending : Ending} {d : Drive σ}

theorem of_late (late : ∀ error, d.result = .error error → ¬ error.Early) : EndsEarly t packets ending d where
  cancelled failed := absurd (.inl rfl) (late _ failed)
  disconnected failed := absurd (.inr (.inl rfl)) (late _ failed)
  timeout limit failed := absurd (.inr (.inr ⟨limit, rfl⟩)) (late _ failed)

theorem of_cancelled (failed : d.result = .error .cancelled) (seen : ending = .cancelled)
    (unchanged : d.transfer = (t.feeds packets).transfer) : EndsEarly t packets ending d where
  cancelled _ := ⟨seen, unchanged⟩
  disconnected other := nomatch failed.symm.trans other
  timeout _ other := nomatch failed.symm.trans other

theorem of_disconnected (failed : d.result = .error .disconnected) (seen : ending = .closed)
    (none : d.transfer.retries.failures = 0) : EndsEarly t packets ending d where
  cancelled other := nomatch failed.symm.trans other
  disconnected _ := ⟨seen, none⟩
  timeout _ other := nomatch failed.symm.trans other

theorem of_timeout {limit : Duration} (failed : d.result = .error (.timeout limit)) (seen : ending = .quiet limit)
    (none : d.transfer.retries.failures = 0) : EndsEarly t packets ending d where
  cancelled other := nomatch failed.symm.trans other
  disconnected other := nomatch failed.symm.trans other
  timeout other same := by
    cases failed.symm.trans same
    exact ⟨seen, none⟩

end EndsEarly

theorem Driven.tells {plan : RetryPlan} {packets taken : List Bytes} {ending : Ending} {d : Drive σ}
    (driven : Driven t packets ending d taken) (sound : Sound plan t) (running : t.phase = .running) :
    d.Tells ∧ EndsEarly t packets ending d := by
  cases driven with
  | answered before packet left order waited answer transfer unseen =>
      have late : ∀ error, ((t.feeds before).transfer.feed packet).result = .error error → ¬ error.Early :=
        fun _ failed => (fatal_of_feed (open_of_waited running waited) failed).not_early
      have last : d.transfer = ((t.feeds before).transfer.feed packet).transfer := by
        rw [transfer, feeds_append]
        rfl
      exact ⟨.of_passedOn (agrees_feed _ packet) late answer last,
        .of_late fun error failed => late error (answer.eq_error failed)⟩
  | settled error ends waited answer transfer =>
      have retried := sound.feeds packets
      rcases answer with ⟨more, early⟩ | answer
      · obtain ⟨phase, none⟩ := retried.no_failures_of_retryPending more
        rw [← transfer] at phase none
        rcases ends with ⟨closed, rfl⟩ | ⟨limit, quiet, rfl⟩
        · exact ⟨.of_early early (.inr (.inl rfl)) phase, .of_disconnected early closed none⟩
        · exact ⟨.of_early early (.inr (.inr ⟨limit, rfl⟩)) phase, .of_timeout early quiet none⟩
      · have late : ∀ error, (t.feeds packets).transfer.retryPending.result = .error error → ¬ error.Early :=
          fun _ failed => (fatal_of_retryPending (open_of_waited running waited) failed).not_early
        exact ⟨.of_passedOn (agrees_retryPending _) late answer transfer,
          .of_late fun error failed => late error (answer.eq_error failed)⟩
  | cancelled ends waited answer transfer =>
      have phase : d.transfer.phase = .running := by
        rw [transfer]
        exact running_of_waited running waited
      exact ⟨.of_early answer (.inl rfl) phase, .of_cancelled answer ends transfer⟩

/-- A driver that fails has met an error of the data or of the sink, or the end of its source. -/
theorem Driven.fatal_or_early {packets taken : List Bytes} {ending : Ending} {d : Drive σ}
    {error : TransferError} (driven : Driven t packets ending d taken) (running : t.phase = .running)
    (failed : d.result = .error error) : t.Fatal error ∨ error.Early := by
  cases driven with
  | answered before packet left order waited answer transfer unseen =>
      have fatal := fatal_of_feed (open_of_waited running waited) (answer.eq_error failed)
      exact .inl (fatal.of_reaches (t.reaches_feeds before))
  | settled early ends waited answer transfer =>
      rcases answer with ⟨-, ended⟩ | answer
      · rw [failed] at ended
        cases ended
        rcases ends with ⟨-, rfl⟩ | ⟨limit, -, rfl⟩
        · exact .inr (.inr (.inl rfl))
        · exact .inr (.inr (.inr ⟨limit, rfl⟩))
      · have fatal := fatal_of_retryPending (open_of_waited running waited) (answer.eq_error failed)
        exact .inl (fatal.of_reaches (t.reaches_feeds packets))
  | cancelled ends waited answer transfer =>
      rw [failed] at answer
      cases answer
      exact .inr (.inl rfl)

/-- A driver of a transfer that calls have led to, whatever it sees of its source. It feeds the packets that
    it takes once each, in the order of sending, and nothing once it has a result (`Driven`). The result tells
    the phase (`Drive.Tells`). An early end is the one that was seen: behind a cancellation nothing was fed or
    retried, behind any other nothing is left to retry (`EndsEarly`). -/
theorem drive_tells (reached : Reached settings registry codec t) (running : t.phase = .running)
    {sent packets : List Bytes} {final ending : Ending} (seen : Seen final sent packets ending) :
    let d := t.drive packets ending
    (∃ taken left, sent = taken ++ left ∧ Driven t packets ending d taken) ∧ d.Tells ∧
      EndsEarly t packets ending d := by
  intro d
  obtain ⟨taken, left, split, driven⟩ := driven_drive running packets ending
  obtain ⟨unseen, rest⟩ := seen.isPrefix
  have order : sent = taken ++ (left ++ unseen) := by
    rw [← rest, split, List.append_assoc]
  exact ⟨⟨taken, left ++ unseen, order, driven⟩, driven.tells reached.sound running⟩

/-- The source closes while the payload of two swapped packets awaits its retry. The retry gives an entry, and
    the transfer is left running without failures. -/
theorem drive_tells_closed :
    let t : Transfer RowList := new { raw := true } .builtin {}
    let packets : List Bytes := [[4, 8], [16, 100], [1]]
    let d := t.drive packets .closed
    (Reached { raw := true } .builtin Registry.builtin.codec t ∧ t.phase = .running ∧
        Seen .closed packets packets .closed) ∧
      (d.result = .error .disconnected ∧ d.transfer.entries = 1 ∧ d.transfer.retries.failures = 0) ∧
      (∃ taken left, packets = taken ++ left ∧ Driven t packets .closed d taken) ∧ d.Tells ∧
      EndsEarly t packets .closed d := by
  intro t packets d
  have reached : Reached { raw := true } .builtin Registry.builtin.codec t := .fresh ({} : RowList)
  have seen : Seen .closed packets packets .closed := .packet _ (.packet _ (.packet _ .ended))
  exact ⟨⟨reached, rfl, seen⟩, by decide +kernel, drive_tells reached rfl seen⟩

/-- Seen one packet earlier, a cancellation leaves the transfer where the two packets have led it. -/
example :
    let d := (new { raw := true } .builtin ({} : RowList)).drive [[4, 8], [16, 100]] .cancelled
    d.result = .error .cancelled ∧ d.transfer.entries = 0 ∧ d.transfer.reader.queue.size = 3 := by
  decide +kernel

end Transfer

end SensorLog
