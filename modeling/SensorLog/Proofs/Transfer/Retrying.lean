import SensorLog.Proofs.Transfer.Run

/-!
# Retrying is feeding empty packets

`retryPending` is a loop of calls of `feed` with an empty packet (`retryPending_eq_feeds`), so a run of
calls is one sequence of packets (`transfer_run`) and gives the same errors (`error_mem_run_iff`).
What holds of every sequence of packets holds of every run.
-/

namespace SensorLog.Transfer

variable {σ : Type} [RowSink σ]

/-! ## The loop -/

omit [RowSink σ] in
theorem transfer_idle (t : Transfer σ) : t.idle.transfer = t := by
  unfold idle
  split <;> rfl

omit [RowSink σ] in
theorem closed_of_idle {t : Transfer σ} {error : TransferError} (given : t.idle.result = .error error) :
    error = .closed := by
  unfold idle at given
  split at given
  · cases given
  · cases given
  · cases given
    rfl

/-- The number of empty packets that `retryPending` feeds. -/
def retryFeeds (t : Transfer σ) : Nat :=
  if t.phase = .running ∧ 0 < t.retries.failures then
    match (t.feed []).result with
    | .error _ => 1
    | .ok _ =>
      if (t.feed []).transfer.retryLoad < t.retryLoad then (t.feed []).transfer.retryFeeds + 1 else 1
  else 0
termination_by t.retryLoad

/-- The packets of retrying. -/
def retryPackets (t : Transfer σ) : List Bytes :=
  List.replicate t.retryFeeds []

theorem retryPackets_of_quiet {t : Transfer σ} (quiet : ¬ (t.phase = .running ∧ 0 < t.retries.failures)) :
    t.retryPackets = [] := by
  rw [retryPackets, retryFeeds, if_neg quiet]
  rfl

/-- An empty packet is the last one if it is answered with an error or leaves as much work as before. -/
theorem retryPackets_of_last {t : Transfer σ} (pending : t.phase = .running ∧ 0 < t.retries.failures)
    (last : (∃ error, (t.feed []).result = .error error) ∨
      ¬ (t.feed []).transfer.retryLoad < t.retryLoad) : t.retryPackets = [[]] := by
  rw [retryPackets, retryFeeds, if_pos pending]
  rcases last with ⟨error, failed⟩ | stuck
  · simp only [failed]
    rfl
  · cases answer : (t.feed []).result with
    | error error => rfl
    | ok progress =>
        simp only [if_neg stuck]
        rfl

theorem retryPackets_of_round {t : Transfer σ} (pending : t.phase = .running ∧ 0 < t.retries.failures)
    {progress : Progress} (answer : (t.feed []).result = .ok progress)
    (lower : (t.feed []).transfer.retryLoad < t.retryLoad) :
    t.retryPackets = [] :: (t.feed []).transfer.retryPackets := by
  rw [retryPackets, retryFeeds, if_pos pending]
  simp only [answer, if_pos lower]
  rfl

/-- The round that fails is the last. -/
theorem retryPending_of_error {t : Transfer σ} (pending : t.phase = .running ∧ 0 < t.retries.failures)
    {error : TransferError} (failed : (t.feed []).result = .error error) :
    t.retryPending = { result := .error error, transfer := (t.feed []).transfer
                       events := .retryPending t.retries.failures :: (t.feed []).events } := by
  rw [retryPending, if_pos pending]
  simp only [failed]

/-- Behind any other round that leaves less to do, retrying goes on as if it began there. -/
theorem retryPending_of_round {t : Transfer σ} (pending : t.phase = .running ∧ 0 < t.retries.failures)
    {progress : Progress} (answer : (t.feed []).result = .ok progress)
    (lower : (t.feed []).transfer.retryLoad < t.retryLoad) :
    t.retryPending = (t.feed []).transfer.retryPending.after
      (.retryPending t.retries.failures :: (t.feed []).events) := by
  rw [retryPending, if_pos pending]
  simp only [answer, if_pos lower]

/-- A round that leaves as much to do as it found is the last. -/
theorem retryPending_of_stuck {t : Transfer σ} (pending : t.phase = .running ∧ 0 < t.retries.failures)
    {progress : Progress} (answer : (t.feed []).result = .ok progress)
    (stuck : ¬ (t.feed []).transfer.retryLoad < t.retryLoad) :
    t.retryPending = (t.feed []).transfer.idle.after
      (.retryPending t.retries.failures :: (t.feed []).events) := by
  rw [retryPending, if_pos pending]
  simp only [answer, if_neg stuck]

theorem retryPending_of_quiet {t : Transfer σ} (quiet : ¬ (t.phase = .running ∧ 0 < t.retries.failures)) :
    t.retryPending = t.idle := by
  rw [retryPending, if_neg quiet]

/-- Induction along the rounds of retrying. -/
theorem retryPending_induction {motive : Transfer σ → Prop}
    (failed : ∀ t error, t.phase = .running ∧ 0 < t.retries.failures →
      (t.feed []).result = .error error → motive t)
    (round : ∀ t progress, t.phase = .running ∧ 0 < t.retries.failures →
      (t.feed []).result = .ok progress → (t.feed []).transfer.retryLoad < t.retryLoad →
      motive (t.feed []).transfer → motive t)
    (stuck : ∀ t progress, t.phase = .running ∧ 0 < t.retries.failures →
      (t.feed []).result = .ok progress → ¬ (t.feed []).transfer.retryLoad < t.retryLoad → motive t)
    (quiet : ∀ t, ¬ (t.phase = .running ∧ 0 < t.retries.failures) → motive t) (t : Transfer σ) :
    motive t := by
  induction t using retryPending.induct with
  | case1 t pending reply error answer => exact failed t error pending answer
  | case2 t pending reply progress answer lower ih => exact round t progress pending answer lower ih
  | case3 t pending reply progress answer same => exact stuck t progress pending answer same
  | case4 t none => exact quiet t none

/-- A round that completes the transfer is the last. -/
theorem retryPending_of_complete {t : Transfer σ} (pending : t.phase = .running ∧ 0 < t.retries.failures)
    {n : Nat} (complete : (t.feed []).result = .ok (.complete n)) :
    t.retryPending.transfer = (t.feed []).transfer ∧ t.retryPending.result = .ok (.complete n) := by
  have answer := idle_of_agrees (agrees_feed t []) complete
  by_cases lower : (t.feed []).transfer.retryLoad < t.retryLoad
  · have quiet : ¬ ((t.feed []).transfer.phase = .running ∧ 0 < (t.feed []).transfer.retries.failures) := by
      rintro ⟨running, -⟩
      simp only [idle, running] at answer
      cases answer
    rw [retryPending_of_round pending complete lower, retryPending_of_quiet quiet]
    exact ⟨transfer_idle _, answer⟩
  · rw [retryPending_of_stuck pending complete lower]
    exact ⟨transfer_idle _, answer⟩

/-- `retryPending` feeds empty packets. It leaves what they leave and gives their last answer; without
    a packet it gives the answer of an idle transfer. -/
theorem retryPending_eq_feeds (t : Transfer σ) :
    t.retryPending.transfer = (t.feeds t.retryPackets).transfer ∧
      t.retryPending.result = ((t.feeds t.retryPackets).results.getLast?).getD t.idle.result := by
  induction t using retryPending_induction with
  | failed t error pending failed =>
      rw [retryPackets_of_last pending (.inl ⟨error, failed⟩), retryPending_of_error pending failed, feeds_cons]
      exact ⟨rfl, failed.symm⟩
  | round t progress pending answer lower ih =>
      obtain ⟨transfer, result⟩ := ih
      rw [retryPackets_of_round pending answer lower, retryPending_of_round pending answer lower, feeds_cons]
      constructor
      · exact transfer
      · rw [Reply.result_after, result, idle_of_agrees (agrees_feed t []) answer, List.getLast?_cons,
          Option.getD_some, answer]
  | stuck t progress pending answer stuck =>
      have again := idle_of_agrees (agrees_feed t []) answer
      rw [retryPackets_of_last pending (.inr stuck), retryPending_of_stuck pending answer stuck, feeds_cons]
      exact ⟨transfer_idle _, again.trans answer.symm⟩
  | quiet t quiet =>
      rw [retryPackets_of_quiet quiet, retryPending_of_quiet quiet]
      exact ⟨t.transfer_idle, rfl⟩

/-- Retrying stops at the first error, so it gives every error that comes up. -/
theorem retryPending_of_error_mem {t : Transfer σ} {error : TransferError}
    (member : .error error ∈ (t.feeds t.retryPackets).results) : t.retryPending.result = .error error := by
  induction t using retryPending_induction with
  | failed t error' pending failed =>
      rw [retryPackets_of_last pending (.inl ⟨error', failed⟩), feeds_cons, failed] at member
      rw [retryPending_of_error pending failed]
      exact (List.mem_singleton.1 member).symm
  | round t progress pending answer lower ih =>
      rw [retryPackets_of_round pending answer lower, feeds_cons, List.mem_cons, answer] at member
      rw [retryPending_of_round pending answer lower]
      exact ih (member.resolve_left nofun)
  | stuck t progress pending answer stuck =>
      rw [retryPackets_of_last pending (.inr stuck), feeds_cons, answer] at member
      exact nomatch List.mem_singleton.1 member
  | quiet t quiet =>
      rw [retryPackets_of_quiet quiet] at member
      cases member

/-! ## A run as one sequence of packets -/

/-- The packets that calls feed, retrying included. -/
def packetsOf (t : Transfer σ) : List Call → List Bytes
  | [] => []
  | .feed packet :: rest => packet :: (t.feed packet).transfer.packetsOf rest
  | .retryPending :: rest => t.retryPackets ++ t.retryPending.transfer.packetsOf rest

theorem feeds_append (t : Transfer σ) (first second : List Bytes) :
    t.feeds (first ++ second) =
      { results := (t.feeds first).results ++ ((t.feeds first).transfer.feeds second).results
        transfer := ((t.feeds first).transfer.feeds second).transfer } := by
  induction first generalizing t with
  | nil => rfl
  | cons packet rest ih =>
      simp only [List.cons_append, feeds_cons, ih]

theorem transfer_run (t : Transfer σ) (calls : List Call) :
    (t.run calls).transfer = (t.feeds (t.packetsOf calls)).transfer := by
  induction calls generalizing t with
  | nil => rfl
  | cons c rest ih =>
      cases c with
      | feed packet => exact ih (t.feed packet).transfer
      | retryPending =>
          obtain ⟨transfer, -⟩ := t.retryPending_eq_feeds
          simp only [packetsOf, feeds_append]
          rw [← transfer]
          exact ih t.retryPending.transfer

/-- The errors that calls give are the errors of the packets that they feed. -/
theorem error_mem_run_iff {error : TransferError} (opened : error ≠ .closed) (t : Transfer σ)
    (calls : List Call) :
    .error error ∈ (t.run calls).results ↔ .error error ∈ (t.feeds (t.packetsOf calls)).results := by
  induction calls generalizing t with
  | nil => rfl
  | cons c rest ih =>
      cases c with
      | feed packet =>
          simp only [run, call, packetsOf, feeds_cons, List.mem_cons, ih]
      | retryPending =>
          obtain ⟨transfer, result⟩ := t.retryPending_eq_feeds
          simp only [run, call, packetsOf, feeds_append, List.mem_cons, List.mem_append, ih]
          rw [← transfer]
          apply or_congr_left
          constructor
          · intro given
            rw [result] at given
            cases last : (t.feeds t.retryPackets).results.getLast? with
            | none =>
                rw [last, Option.getD_none] at given
                exact absurd (closed_of_idle given.symm) opened
            | some answer =>
                rw [last, Option.getD_some] at given
                rw [given]
                exact List.mem_of_getLast? last
          · intro member
            exact (retryPending_of_error_mem member).symm

end SensorLog.Transfer
