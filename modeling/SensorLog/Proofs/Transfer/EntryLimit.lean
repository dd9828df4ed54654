import SensorLog.Proofs.Transfer.LifeCycle
import SensorLog.Proofs.Transfer.Lockstep

/-!
# The entry limit cuts the rows off

A transfer that stops after `k` entries runs in step with the same transfer without a limit until one pass
writes the `k`-th row on both sides. There the first is complete (`CutOff`), while the second goes on in the
same loop and can only add rows. So the limited rows are the first `k` rows, and every result before the
call with the `k`-th row is the same (`run_limited`).
-/

namespace SensorLog

variable {σ τ : Type}

namespace Transfer

/-! ## No row is taken back -/

theorem Reaches.rows [RowSink σ] {t t' : Transfer (Noted σ)} (reaches : t.Reaches t') :
    t.sink.rows <+: t'.sink.rows := by
  obtain ⟨calls, after⟩ := reaches
  rw [after]
  exact t.sink.rows_after calls

/-- Retrying goes on from its first round. -/
theorem reaches_retryPending [RowSink σ] {t : Transfer σ} (pending : t.phase = .running ∧ 0 < t.retries.failures) :
    (t.feed []).transfer.Reaches t.retryPending.transfer := by
  cases answer : (t.feed []).result with
  | error error =>
      rw [retryPending_of_error pending answer]
      exact .refl _
  | ok progress =>
      by_cases lower : (t.feed []).transfer.retryLoad < t.retryLoad
      · rw [retryPending_of_round pending answer lower, Reply.transfer_after, (retryPending_eq_feeds _).1]
        exact reaches_feeds _ _
      · rw [retryPending_of_stuck pending answer lower, Reply.transfer_after, transfer_idle]
        exact .refl _

theorem reaches_run [RowSink σ] (t : Transfer σ) (calls : List Call) : t.Reaches (t.run calls).transfer := by
  rw [transfer_run]
  exact t.reaches_feeds _

/-! ## The pass with the last row -/

variable [RowSink σ] [RowSink τ] {t : Transfer (Noted σ)} {u : Transfer (Noted τ)} {k : Nat}

/-- The transfer is complete with `k` entries, the first rows of the other. -/
structure CutOff (k : Nat) (t : Transfer (Noted σ)) (u : Transfer (Noted τ)) : Prop where
  phase : t.phase = .complete
  entries : t.entries = k
  enough : k ≤ u.sink.rows.length
  rows : t.sink.rows = u.sink.rows.take k

omit [RowSink σ] in
/-- What the other writes after that makes no difference. -/
theorem CutOff.grow {u' : Transfer (Noted τ)} (cut : CutOff k t u) (reaches : u.Reaches u') :
    CutOff k t u' where
  phase := cut.phase
  entries := cut.entries
  enough := Nat.le_trans cut.enough reaches.rows.length_le
  rows := by
    obtain ⟨more, appended⟩ := reaches.rows
    rw [← appended, List.take_append_of_le_length cut.enough, cut.rows]

/-- The answers of a transfer that stops after `k` entries and of one that does not. -/
inductive Limited (k : Nat) (limited : Reply (Noted σ)) (free : Reply (Noted τ)) : Prop
  /-- Fewer rows are written: the answers are the same. -/
  | below (result : free.result = limited.result) (after : InStep (· = ·) limited.transfer free.transfer)
      (fewer : limited.transfer.entries < k)
  /-- The last row is written: only the first transfer stops. -/
  | reached (result : limited.result = .ok (.complete k)) (cut : CutOff k limited.transfer free.transfer)

/-- Events that lead to the answers do not count. -/
theorem Limited.after {limited : Reply (Noted σ)} {free : Reply (Noted τ)} (alike : Limited k limited free)
    (events events' : List Event) : Limited k (limited.after events) (free.after events') := by
  cases alike with
  | below result after fewer => exact .below result after fewer
  | reached result cut => exact .reached result cut

/-- Transfers in step of which only the first has an entry limit, not yet reached. -/
structure Nearing (k : Nat) (t : Transfer (Noted σ)) (u : Transfer (Noted τ)) : Prop where
  together : InStep (· = ·) t u
  limit : t.settings.maxEntries? = some k
  free : u.settings.maxEntries? = none
  below : t.entries < k

namespace Nearing

/-- Below its limit the first transfer makes the same passes as the second. -/
theorem limitReached_eq (near : Nearing k t u) : u.limitReached = t.limitReached := by
  rw [limitReached, limitReached, near.limit, near.free]
  exact (decide_eq_false (Nat.not_le_of_lt near.below)).symm

omit [RowSink τ] in
/-- A transfer at its limit completes in the next pass. -/
theorem advance_of_reached (faithful : RowSink.NeverFails t.sink) (limit : t.settings.maxEntries? = some k)
    (reached : t.entries = k) : t.advance.result = .ok (.complete k) ∧
      t.advance.transfer.phase = .complete ∧ t.advance.transfer.entries = k ∧
      t.advance.transfer.sink.rows = t.sink.rows := by
  have atLimit : t.limitReached = true := by
    rw [limitReached, limit, reached]
    exact decide_eq_true (Nat.le_refl k)
  have turn : t.turn = .stop (t.finish.after [.entryLimit t.entries]) := by
    rw [Transfer.turn, if_pos atLimit]
  rw [advance_of_stop turn, t.finish_of_faithful faithful, reached]
  exact ⟨rfl, rfl, rfl, Noted.rows_flush faithful⟩

theorem advance (near : Nearing k t u) : Limited k t.advance u.advance := by
  induction t using advance_induction generalizing u with
  | stop t reply turn =>
      obtain ⟨reply', turn', result, entries, after⟩ :=
        (near.together.turn near.limitReached_eq).of_stop turn
      rw [advance_of_stop turn, advance_of_stop turn']
      exact .below result after (entries ▸ near.below)
  | again t t' events turn ih =>
      obtain ⟨u', events', turn', entries, after⟩ :=
        (near.together.turn near.limitReached_eq).of_again turn
      have limit : t'.settings.maxEntries? = some k := settings_of_again turn ▸ near.limit
      have free : u'.settings.maxEntries? = none := settings_of_again turn' ▸ near.free
      rw [advance_of_again turn, advance_of_again turn']
      by_cases fewer : t'.entries < k
      · exact (ih ⟨after, limit, free, fewer⟩).after _ _
      · have last : t'.entries = k := by
          have := near.below
          omega
        obtain ⟨result, phase, same, rows⟩ := advance_of_reached after.faithful limit last
        have size : u'.sink.rows.length = k := by rw [after.rows_eq, after.tally, last]
        have cut : CutOff k t'.advance.transfer u' := {
          phase, entries := same
          enough := Nat.le_of_eq size.symm
          rows := by rw [rows, ← size, List.take_length, after.rows_eq] }
        exact .reached result (cut.grow u'.reaches_advance)

theorem feed (near : Nearing k t u) (packet : Bytes) : Limited k (t.feed packet) (u.feed packet) := by
  have together := near.together
  cases phase : t.phase with
  | running =>
      rw [feed_of_running phase, feed_of_running (together.phase.trans phase), together.reader]
      cases accepted : t.reader.write packet with
      | error cause => exact .below rfl (together.fail _) near.below
      | ok reader =>
          have next : Nearing k { t with reader } { u with reader } :=
            ⟨together.write accepted, near.limit, near.free, near.below⟩
          exact next.advance
  | complete =>
      rw [feed_of_complete phase, feed_of_complete (together.phase.trans phase), together.entries]
      exact .below rfl together near.below
  | failed =>
      rw [feed_of_failed phase, feed_of_failed (together.phase.trans phase)]
      exact .below rfl together near.below

theorem after_feed (near : Nearing k t u) {packet : Bytes}
    (after : InStep (· = ·) (t.feed packet).transfer (u.feed packet).transfer)
    (fewer : (t.feed packet).transfer.entries < k) :
    Nearing k (t.feed packet).transfer (u.feed packet).transfer :=
  ⟨after, settings_feed t packet ▸ near.limit, settings_feed u packet ▸ near.free, fewer⟩

theorem idle (near : Nearing k t u) : Limited k t.idle u.idle := by
  apply Limited.below near.together.idle
  · rw [transfer_idle, transfer_idle]
    exact near.together
  · rw [transfer_idle]
    exact near.below

/-- The round of retrying in which the last row is written ends it for the first transfer only. -/
theorem retryPending_of_reached (near : Nearing k t u) (pending : t.phase = .running ∧ 0 < t.retries.failures)
    (result : (t.feed []).result = .ok (.complete k))
    (cut : CutOff k (t.feed []).transfer (u.feed []).transfer) : Limited k t.retryPending u.retryPending := by
  obtain ⟨transfer, answer⟩ := retryPending_of_complete pending result
  have grown : CutOff k (t.feed []).transfer u.retryPending.transfer :=
    cut.grow (reaches_retryPending (near.together.pending pending))
  exact .reached answer (transfer ▸ grown)

theorem retryPending (near : Nearing k t u) : Limited k t.retryPending u.retryPending := by
  induction t using retryPending_induction generalizing u with
  | failed t error pending failed =>
      cases near.feed [] with
      | below same after fewer =>
          rw [retryPending_of_error pending failed,
            retryPending_of_error (near.together.pending pending) (same.trans failed)]
          exact .below rfl after fewer
      | reached result cut => exact near.retryPending_of_reached pending result cut
  | round t progress pending answer lower ih =>
      cases near.feed [] with
      | below same after fewer =>
          have lower' : (u.feed []).transfer.retryLoad < u.retryLoad := by
            rw [after.retryLoad_eq, near.together.retryLoad_eq]
            exact lower
          rw [retryPending_of_round pending answer lower,
            retryPending_of_round (near.together.pending pending) (same.trans answer) lower']
          exact (ih (near.after_feed after fewer)).after _ _
      | reached result cut => exact near.retryPending_of_reached pending result cut
  | stuck t progress pending answer stuck =>
      cases near.feed [] with
      | below same after fewer =>
          have stuck' : ¬ (u.feed []).transfer.retryLoad < u.retryLoad := by
            rw [after.retryLoad_eq, near.together.retryLoad_eq]
            exact stuck
          rw [retryPending_of_stuck pending answer stuck,
            retryPending_of_stuck (near.together.pending pending) (same.trans answer) stuck']
          exact (near.after_feed after fewer).idle.after _ _
      | reached result cut => exact near.retryPending_of_reached pending result cut
  | quiet t quiet =>
      have quiet' : ¬ (u.phase = .running ∧ 0 < u.retries.failures) := by
        rw [near.together.phase, near.together.retries]
        exact quiet
      rw [retryPending_of_quiet quiet, retryPending_of_quiet quiet']
      exact near.idle

theorem call (near : Nearing k t u) (c : Call) : Limited k (t.call c) (u.call c) := by
  cases c with
  | feed packet => exact near.feed packet
  | retryPending => exact near.retryPending

end Nearing

/-! ## Runs -/

/-- Once a transfer is complete, every call says so. -/
theorem results_of_complete {t : Transfer σ} (complete : t.phase = .complete) (calls : List Call) :
    (t.run calls).results = List.replicate calls.length (.ok (.complete t.entries)) := by
  have ended : t.phase ≠ .running := by
    rw [complete]
    exact nofun
  rw [← results_replies, replies_of_ended ended, List.map_replicate]
  simp only [idle, complete]

/-- Behind the last row the first transfer answers that it is complete, and the other only adds rows. -/
theorem CutOff.run (cut : CutOff k t u) (calls : List Call) :
    (t.run calls).transfer.sink.rows = (u.run calls).transfer.sink.rows.take k ∧
      (t.run calls).results = List.replicate calls.length (.ok (.complete k)) := by
  have ended : t.phase ≠ .running := by
    rw [cut.phase]
    exact nofun
  rw [results_of_complete cut.phase, cut.entries, transfer_run_of_ended ended]
  exact ⟨(cut.grow (u.reaches_run calls)).rows, rfl⟩

/-- The first transfer cuts the rows off, and up to the call with the last row it gives the same answers. -/
theorem Nearing.run (near : Nearing k t u) (calls : List Call) :
    (t.run calls).transfer.sink.rows = (u.run calls).transfer.sink.rows.take k ∧
      ∀ i < calls.length,
        let written := (u.run (calls.take (i + 1))).transfer.sink.rows.length
        (written < k → (t.run calls).results[i]? = (u.run calls).results[i]?) ∧
          (k ≤ written → (t.run calls).results[i]? = some (.ok (.complete k))) := by
  induction calls generalizing t u with
  | nil =>
      refine ⟨?_, nofun⟩
      show t.sink.rows = u.sink.rows.take k
      rw [near.together.rows_eq, List.take_of_length_le]
      rw [near.together.tally]
      exact Nat.le_of_lt near.below
  | cons c rest ih =>
      cases near.call c with
      | below result after fewer =>
          have next : Nearing k (t.call c).transfer (u.call c).transfer :=
            ⟨after, settings_call t c ▸ near.limit, settings_call u c ▸ near.free, fewer⟩
          obtain ⟨rows, answers⟩ := ih next
          refine ⟨rows, ?_⟩
          intro i inside
          cases i with
          | zero =>
              have size : (u.call c).transfer.sink.rows.length < k := by
                rw [after.rows_eq, after.tally]
                exact fewer
              exact ⟨fun _ => congrArg some result.symm, fun enough => absurd size (Nat.not_lt_of_le enough)⟩
          | succ i => exact answers i (Nat.lt_of_succ_lt_succ inside)
      | reached result cut =>
          obtain ⟨rows, later⟩ := cut.run rest
          refine ⟨rows, ?_⟩
          intro i inside written
          have enough : k ≤ written := (cut.grow (reaches_run _ (rest.take i))).enough
          refine ⟨fun fewer => absurd fewer (Nat.not_lt_of_le enough), ?_⟩
          intro _
          have results : (t.run (c :: rest)).results
              = List.replicate (c :: rest).length (.ok (.complete k)) := by
            rw [Transfer.run, result, later]
            rfl
          rw [results, List.getElem?_replicate_of_lt inside]

/-- An entry limit cuts the rows off and changes nothing before: the limited transfer writes the first `k`
    rows of the unlimited one, and a call has the same result in both as long as fewer than `k` rows are
    written after it. From the call with the `k`-th row on, the limited transfer answers that it is complete,
    whatever the other meets in that call. -/
theorem run_limited (settings : Settings) (registry : Registry) (codec : RecordCodec) {k : Nat}
    (positive : 0 < k) {sink : σ} {sink' : τ} (faithful : RowSink.NeverFails sink)
    (faithful' : RowSink.NeverFails sink') (calls : List Call) :
    let limited := ofCodec { settings with maxEntries? := some k } registry codec sink
    let free := ofCodec { settings with maxEntries? := none } registry codec sink'
    limited.rowsAfter calls = (free.rowsAfter calls).take k ∧
      ∀ i < calls.length,
        let written := (free.rowsAfter (calls.take (i + 1))).length
        (written < k → (limited.run calls).results[i]? = (free.run calls).results[i]?) ∧
          (k ≤ written → (limited.run calls).results[i]? = some (.ok (.complete k))) := by
  intro limited free
  have together : InStep (· = ·) limited.noted free.noted :=
    .fresh faithful faithful' rfl rfl rfl (.same rfl rfl)
  have near : Nearing k limited.noted free.noted := ⟨together, rfl, rfl, positive⟩
  obtain ⟨rows, answers⟩ := near.run calls
  rw [results_noted, results_noted] at answers
  exact ⟨rows, answers⟩

/-- Behind the first of two entries in one packet the unlimited transfer comes to a frame without length, and
    fails in the call in which the limited one is complete. -/
theorem run_limited_one :
    let settings : Settings := { raw := true }
    let limited := ofCodec { settings with maxEntries? := some 1 } .builtin Registry.builtin.codec ({} : RowList)
    let free := ofCodec { settings with maxEntries? := none } .builtin Registry.builtin.codec ({} : RowList)
    let calls : List Call := [.feed [4, 8], .feed [1, 16, 100, 4, 8, 2, 16, 100, 0], .retryPending]
    (0 < 1 ∧ RowSink.NeverFails ({} : RowList)) ∧
      (free.run calls).results = [.ok .more, .error (.frame .zeroLengthFrame), .error .closed] ∧
      (free.rowsAfter calls).length = 2 ∧ limited.rowsAfter calls = (free.rowsAfter calls).take 1 ∧
      (limited.run calls).results[0]? = (free.run calls).results[0]? ∧
      (limited.run calls).results[1]? = some (.ok (.complete 1)) := by
  intro settings limited free calls
  have faithful : RowSink.NeverFails ({} : RowList) := RowSink.neverFails_rowList _
  obtain ⟨rows, answers⟩ :=
    run_limited settings .builtin Registry.builtin.codec Nat.one_pos faithful faithful calls
  have before := (answers 0 (by decide)).1 (by decide +kernel)
  have last := (answers 1 (by decide)).2 (by decide +kernel)
  exact ⟨⟨Nat.one_pos, faithful⟩, by decide +kernel, by decide +kernel, rows, before, last⟩

end Transfer

end SensorLog
