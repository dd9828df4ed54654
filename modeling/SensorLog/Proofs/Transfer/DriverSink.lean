import SensorLog.Proofs.Transfer.Driving

/-!
# Drivers and sinks

A driver knows the sink of its transfer by the answers to its calls. Drivers of transfers in step have the
same results (`InStep.driveFrom`), and noting what reaches the sink changes none (`driveFrom_mapSink`). With a
sink that takes all rows and a source that closes there are three ends (`drive_closed`).
-/

namespace SensorLog

variable {σ τ : Type}

namespace Transfer

/-! ## Sinks that take all rows -/

section InStep

variable [RowSink σ] [RowSink τ] {like : Row → Row → Prop} {t : Transfer (Noted σ)} {u : Transfer (Noted τ)}

theorem InStep.settle (together : InStep like t u) (limits : u.settings.maxEntries? = t.settings.maxEntries?)
    (error : TransferError) : (u.settle error).result = (t.settle error).result ∧
      InStep like (t.settle error).transfer (u.settle error).transfer := by
  unfold Transfer.settle
  rw [together.retries]
  by_cases none : t.retries.failures = 0
  · rw [if_pos none, if_pos none]
    exact ⟨rfl, together⟩
  · obtain ⟨same, after⟩ := together.retryPending limits
    rw [if_neg none, if_neg none]
    dsimp only
    rw [same]
    exact ⟨rfl, after⟩

/-- Drivers of transfers in step have the same results. -/
theorem InStep.driveFrom (together : InStep like t u)
    (limits : u.settings.maxEntries? = t.settings.maxEntries?) (received : Nat) (ending : Ending)
    (packets : List Bytes) :
    (u.driveFrom received ending packets).result = (t.driveFrom received ending packets).result ∧
      InStep like (t.driveFrom received ending packets).transfer (u.driveFrom received ending packets).transfer := by
  induction packets generalizing t u received with
  | nil =>
      cases ending with
      | closed => exact together.settle limits .disconnected
      | quiet limit => exact together.settle limits (.timeout limit)
      | cancelled => exact ⟨rfl, together⟩
  | cons packet rest ih =>
      obtain ⟨same, after⟩ := together.feed limits packet
      rw [Transfer.driveFrom, Transfer.driveFrom, same]
      rcases (t.feed packet).result with error | (_ | n)
      · exact ⟨rfl, after⟩
      · apply ih after
        rw [settings_feed, settings_feed]
        exact limits
      · exact ⟨rfl, after⟩

end InStep

end Transfer

/-! ## Sinks with the same answers -/

/-- The end of a driver with another sink. -/
def Drive.mapSink (f : σ → τ) (d : Drive σ) : Drive τ :=
  { d with transfer := d.transfer.mapSink f }

namespace Transfer

section MapSink

variable [RowSink σ] [RowSink τ] {f : σ → τ}

theorem settle_mapSink (respects : RowSink.Respects f) (t : Transfer σ) (error : TransferError) :
    (t.mapSink f).settle error = (t.settle error).mapSink f := by
  unfold settle
  have same : (t.mapSink f).retries = t.retries := rfl
  rw [same, retryPending_mapSink respects]
  by_cases none : t.retries.failures = 0
  · rw [if_pos none, if_pos none]
    rfl
  · rw [if_neg none, if_neg none]
    rfl

/-- A driver knows the sink by its answers. -/
theorem driveFrom_mapSink (respects : RowSink.Respects f) (t : Transfer σ) (received : Nat)
    (ending : Ending) (packets : List Bytes) :
    (t.mapSink f).driveFrom received ending packets = (t.driveFrom received ending packets).mapSink f := by
  induction packets generalizing t received with
  | nil =>
      cases ending with
      | closed =>
          rw [driveFrom, conclude, settle_mapSink respects]
          rfl
      | quiet limit => exact settle_mapSink respects t (.timeout limit)
      | cancelled => rfl
  | cons packet rest ih =>
      rw [driveFrom, driveFrom, feed_mapSink respects, Reply.result_mapSink]
      rcases (t.feed packet).result with error | (_ | n)
      · rfl
      · rw [Reply.transfer_mapSink, ih]
        rfl
      · rfl

end MapSink

/-! ## What a driver writes -/

variable [RowSink σ]

/-- The rows that a driver writes. -/
def rowsDriven (t : Transfer σ) (packets : List Bytes) (ending : Ending) : List Row :=
  (t.noted.drive packets ending).transfer.sink.rows

/-- The ends of a driver whose source closes and whose sink takes all rows. -/
theorem drive_closed {plan : RetryPlan} {t : Transfer σ} (sound : Sound plan t)
    (running : t.phase = .running) (faithful : RowSink.NeverFails t.sink) (packets : List Bytes) :
    let d := t.drive packets .closed
    (∃ n, d.result = .ok n ∧ d.transfer.entries = n) ∨ d.result = .error .disconnected ∨
      ∃ cause, d.result = .error (.frame cause) := by
  intro d
  obtain ⟨taken, left, -, driven⟩ := driven_drive running packets .closed
  obtain ⟨tells, early⟩ := driven.tells sound running
  rcases result : d.result with error | n
  · right
    rcases driven.fatal_or_early running result with (⟨cause, rfl⟩ | ⟨-, fails⟩) | rfl | rfl | ⟨limit, rfl⟩
    · exact .inr ⟨cause, rfl⟩
    · exact absurd faithful fails
    · exact absurd (early.cancelled result).1 nofun
    · exact .inl rfl
    · exact absurd (early.timeout limit result).1 nofun
  · left
    exact ⟨n, rfl, ((tells.complete n).1 result).2.symm⟩

end Transfer

end SensorLog
