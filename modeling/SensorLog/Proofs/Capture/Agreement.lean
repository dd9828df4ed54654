import SensorLog.CommandLine.Run
import SensorLog.Proofs.Capture.Layout
import SensorLog.Proofs.Row.Writer
import SensorLog.Proofs.Transfer.DriverSink

/-!
# A capture is replayed as a source is driven

Decoding a capture and driving a transfer with the packets of a source are two loops. With the packets that
the capture holds, from a source that closes behind them, they write the same rows and come to the same end
(`run_agrees`): a replay is what `Replay.ofDrive` makes of the end of a driver of the same transfer
(`replayFrom_eq`), and drivers of transfers with other sinks end alike as long as the sinks take all rows.
-/

namespace SensorLog

variable {σ τ : Type}

/-! ## A replay as a driver -/

/-- What a replay makes of the end of a driver: a source that closes early is a capture that is too short. -/
def Replay.ofDrive [RowSink σ] (d : Drive σ) : Replay σ :=
  match d.result with
  | .ok _ => { transfer := d.transfer, result := .ok () }
  | .error .disconnected => Capture.abandon d.transfer
  | .error error => { transfer := d.transfer, result := .error (.ofTransfer Capture.decodeContext error) }

namespace Capture

variable [RowSink σ] [RowSink τ] {t : Transfer σ}

theorem ofDrive_of_error {d : Drive σ} {error : TransferError} (failed : d.result = .error error)
    (late : ¬ error.Early) :
    Replay.ofDrive d = { transfer := d.transfer, result := .error (.ofTransfer decodeContext error) } := by
  unfold Replay.ofDrive
  rw [failed]
  cases error with
  | disconnected => exact absurd (.inr (.inl rfl)) late
  | _ => rfl

theorem settle_eq (running : t.phase = .running) :
    settle t = Replay.ofDrive (t.settle .disconnected) := by
  have unfailed : t.phase ≠ .failed := by
    rw [running]
    exact nofun
  unfold settle Transfer.settle
  by_cases none : t.retries.failures = 0
  · rw [if_pos none, if_pos none]
    rfl
  · rw [if_neg none, if_neg none]
    dsimp only
    rcases result : t.retryPending.result with error | (_ | n)
    · rw [ofDrive_of_error rfl (Transfer.fatal_of_retryPending unfailed result).not_early]
    · rfl
    · rfl

/-- Replaying the lines of a capture is driving with its packets, from a source that closes behind them. -/
theorem replayFrom_eq {lines packets : List Bytes} (reads : Reads lines packets) (running : t.phase = .running)
    (number received : Nat) :
    replayFrom t number lines = Replay.ofDrive (t.driveFrom received .closed packets) := by
  induction reads generalizing t number received with
  | nil => exact settle_eq running
  | @cons line text packet? lines packets decoded read later ih =>
      rw [replayFrom]
      simp only [decoded, read]
      cases packet? with
      | none => exact ih running (number + 1) received
      | some packet =>
          have unfailed : t.phase ≠ .failed := by
            rw [running]
            exact nofun
          show _ = Replay.ofDrive (t.driveFrom received .closed (packet :: packets))
          rw [Transfer.driveFrom]
          dsimp only
          rcases result : (t.feed packet).result with error | (_ | n)
          · rw [ofDrive_of_error rfl (Transfer.fatal_of_feed unfailed result).not_early]
          · exact ih ((Transfer.agrees_feed t packet).running result) (number + 1) (received + 1)
          · rfl

theorem replay_eq {packets : List Bytes} {text : String} (layout : Layout packets text.toList)
    (running : t.phase = .running) :
    replay t (Bytes.ofText text) = Replay.ofDrive (t.drive packets .closed) := by
  have reads := reads_of_layout layout
  rw [String.ofList_toList] at reads
  exact replayFrom_eq reads running 1 0

theorem abandon_mapSink {f : σ → τ} (respects : RowSink.Respects f) (t : Transfer σ) :
    abandon (t.mapSink f)
      = { transfer := (abandon t).transfer.mapSink f, result := (abandon t).result } := by
  have answer : RowSink.flush (t.mapSink f).sink = (f (RowSink.flush t.sink).1, (RowSink.flush t.sink).2) :=
    respects t.sink .flush
  unfold abandon
  rw [answer]
  rfl

theorem ofDrive_mapSink {f : σ → τ} (respects : RowSink.Respects f) (d : Drive σ) :
    Replay.ofDrive (d.mapSink f)
      = { transfer := (Replay.ofDrive d).transfer.mapSink f, result := (Replay.ofDrive d).result } := by
  unfold Replay.ofDrive Drive.mapSink
  dsimp only
  split
  · rfl
  · exact abandon_mapSink respects d.transfer
  · rfl

/-- A transfer that is given up keeps its rows. -/
theorem abandon_of_faithful {t : Transfer σ} (faithful : RowSink.NeverFails t.sink) :
    abandon t = { transfer := { t with sink := RowSink.after t.sink [.flush] }
                  result := .error (tooShort t.entries) } := by
  have granted : RowSink.flush t.sink = (RowSink.after t.sink [.flush], .ok ()) := faithful.call .flush
  unfold abandon
  rw [granted]

end Capture

/-! ## Requests -/

namespace DecodeRequest

/-- The request finds this capture, and the file for rows can be created. -/
def Finds (r : DecodeRequest) (files : Files) (capture : Bytes) : Prop :=
  match r.rowFile? with
  | none => files.read r.capture = .content capture
  | some path => files.create path = .ok () ∧ (files.afterCreating path).read r.capture = .content capture

theorem run_of_finds {r : DecodeRequest} {files : Files} {capture : Bytes} (found : r.Finds files capture) :
    r.run files = r.effects (Capture.replay r.transfer capture).transfer.sink.sink.bytes
      (Capture.replay r.transfer capture).result := by
  have decoded : r.decode (.content capture) = r.effects
      (Capture.replay r.transfer capture).transfer.sink.sink.bytes (Capture.replay r.transfer capture).result := by
    unfold decode
    cases r.capture <;> rfl
  unfold Finds at found
  unfold run
  cases place : r.rowFile? with
  | none =>
      rw [place] at found
      dsimp only at found ⊢
      rw [found, decoded]
  | some path =>
      rw [place] at found
      obtain ⟨created, content⟩ := found
      dsimp only
      rw [created]
      dsimp only
      rw [content, decoded]

theorem result_effects (r : DecodeRequest) (rows : ByteArray) (result : Except Failure Unit) :
    (r.effects rows result).result = result := by
  unfold effects
  cases r.rowFile? <;> rfl

end DecodeRequest

/-! ## Both loops -/

/-- A frame error has an exit code of its own, neither that of success nor that of a capture too short. -/
theorem Failure.codeOfFrame_ne (cause : FrameError) :
    codeOfFrame cause ≠ ExitCode.success ∧ codeOfFrame cause ≠ ExitCode.failure := by
  unfold codeOfFrame
  split <;> decide

/-- How decoding ends, with a number of rows, when a driver ends so. -/
inductive EndsAlike (rows : Nat) : Except TransferError Nat → Except Failure Unit → Prop
  | complete : EndsAlike rows (.ok rows) (.ok ())
  | short : EndsAlike rows (.error .disconnected) (.error (Capture.tooShort rows))
  | failed (cause : FrameError) :
      EndsAlike rows (.error (.frame cause)) (.error (.ofTransfer Capture.decodeContext (.frame cause)))

/-- Each end of one side belongs to one end of the other, and the exit code tells them apart. -/
theorem EndsAlike.iff {rows : Nat} {result : Except TransferError Nat} {ran : Effects}
    (ends : EndsAlike rows result ran.result) :
    (∀ n, result = .ok n ↔ ran.code = ExitCode.success ∧ rows = n) ∧
      (result = .error .disconnected ↔ ran.code = ExitCode.failure) ∧
      (result = .error .disconnected ↔ ran.result = .error (Capture.tooShort rows)) ∧
      ∀ error, result = .error error → error ≠ .disconnected →
        ran.result = .error (.ofTransfer Capture.decodeContext error) := by
  rw [Effects.code]
  generalize ran.result = outcome at ends
  cases ends with
  | complete =>
      refine ⟨?_, ⟨nofun, nofun⟩, ⟨nofun, nofun⟩, nofun⟩
      intro n
      simp only [Except.ok.injEq, true_and]
  | short =>
      refine ⟨?_, ⟨fun _ => rfl, fun _ => rfl⟩, ⟨fun _ => rfl, fun _ => rfl⟩, ?_⟩
      · intro n
        exact ⟨nofun, nofun⟩
      · intro error same other
        cases same
        exact absurd rfl other
  | failed cause =>
      obtain ⟨unsuccessful, long⟩ := Failure.codeOfFrame_ne cause
      refine ⟨?_, ⟨nofun, fun code => absurd code long⟩, ⟨nofun, ?_⟩, ?_⟩
      · intro n
        exact ⟨nofun, fun both => absurd both.1 unsuccessful⟩
      · intro same
        have code : Failure.codeOfFrame cause = ExitCode.failure := congrArg Failure.code (Except.error.inj same)
        exact absurd code long
      · intro error same _
        cases same
        rfl

/-- A replay ends as its driver does, and keeps the rows. -/
theorem Capture.ofDrive_ends [RowSink σ] {d : Drive (Noted σ)}
    (ends : (∃ n, d.result = .ok n ∧ d.transfer.entries = n) ∨ d.result = .error .disconnected ∨
      ∃ cause, d.result = .error (.frame cause))
    (faithful : RowSink.NeverFails d.transfer.sink)
    (tally : d.transfer.sink.rows.length = d.transfer.entries) :
    (Replay.ofDrive d).transfer.sink.rows = d.transfer.sink.rows ∧
      EndsAlike d.transfer.sink.rows.length d.result (Replay.ofDrive d).result := by
  rcases ends with ⟨n, complete, entries⟩ | early | ⟨cause, failed⟩
  · have replayed : Replay.ofDrive d = { transfer := d.transfer, result := .ok () } := by
      rw [Replay.ofDrive, complete]
    rw [replayed, complete, tally, entries]
    exact ⟨rfl, .complete⟩
  · have replayed : Replay.ofDrive d = Capture.abandon d.transfer := by
      rw [Replay.ofDrive, early]
    rw [replayed, abandon_of_faithful faithful, early, tally]
    exact ⟨Noted.rows_flush faithful, .short⟩
  · have late : ¬ (TransferError.frame cause).Early := by
      rintro (cancelled | disconnected | ⟨limit, late⟩) <;> contradiction
    rw [ofDrive_of_error failed late, failed]
    exact ⟨rfl, .failed cause⟩

/-- Decoding a capture that holds packets, and driving a transfer with the same settings and any sink that takes
    all rows, by the same packets from a source that closes behind them: both write the same rows. The driver
    completes with `n` entries if decoding succeeds with `n` rows; it finds the source closed if decoding finds
    the capture too short, with exit code 1 and its rows kept; and any other error of the driver is the one that
    decoding fails with. -/
theorem DecodeRequest.run_agrees [RowSink σ] (r : DecodeRequest) {files : Files} {sink : σ}
    (faithful : RowSink.NeverFails sink) {packets : List Bytes} {text : String}
    (layout : Capture.Layout packets text.toList) (found : r.Finds files (Bytes.ofText text)) :
    let t := Transfer.new r.settings .builtin sink
    let d := t.drive packets .closed
    let rows := t.rowsDriven packets .closed
    let replay := Capture.replay r.transfer.noted (Bytes.ofText text)
    let ran := r.run files
    ran = r.effects replay.transfer.sink.sink.sink.bytes replay.result ∧
      replay.transfer.sink.rows = rows ∧
      (∀ n, d.result = .ok n ↔ ran.code = ExitCode.success ∧ rows.length = n) ∧
      (d.result = .error .disconnected ↔ ran.code = ExitCode.failure) ∧
      (d.result = .error .disconnected ↔ ran.result = .error (Capture.tooShort rows.length)) ∧
      ∀ error, d.result = .error error → error ≠ .disconnected →
        ran.result = .error (.ofTransfer Capture.decodeContext error) := by
  intro t d rows replay ran
  let driven := r.transfer.noted.drive packets .closed
  have writer : RowSink.NeverFails r.transfer.sink := RowWriter.Unlimited.neverFails ⟨rfl, rfl⟩
  have together : Transfer.InStep (· = ·) r.transfer.noted t.noted :=
    .fresh writer faithful rfl rfl rfl (.same rfl rfl)
  obtain ⟨same, after⟩ := together.driveFrom rfl 0 .closed packets
  have result : d.result = driven.result := by
    have forgotten := Transfer.driveFrom_mapSink Noted.respects_sink t.noted 0 .closed packets
    exact (congrArg Drive.result forgotten).trans same
  have written : driven.transfer.sink.rows = rows := after.rows_eq.symm
  -- The replay with noted rows is the one that decoding makes.
  have replayed : replay = Replay.ofDrive driven := Capture.replay_eq layout rfl
  have plain : Capture.replay r.transfer (Bytes.ofText text)
      = { transfer := replay.transfer.mapSink Noted.sink, result := replay.result } := by
    have forgotten : r.transfer.drive packets .closed = driven.mapSink Noted.sink :=
      Transfer.driveFrom_mapSink Noted.respects_sink r.transfer.noted 0 .closed packets
    rw [Capture.replay_eq layout rfl, forgotten, Capture.ofDrive_mapSink Noted.respects_sink, replayed]
  have decoding : ran = r.effects replay.transfer.sink.sink.sink.bytes replay.result := by
    show r.run files = _
    rw [DecodeRequest.run_of_finds found, plain]
    rfl
  have outcome : ran.result = replay.result := by rw [decoding, r.result_effects]
  have sound : Transfer.Sound r.settings.plan r.transfer.noted := .fresh _ _ _ _
  have closed := Transfer.drive_closed sound rfl (Noted.neverFails writer) packets
  obtain ⟨kept, ends⟩ := Capture.ofDrive_ends (d := driven) closed after.faithful after.tally
  rw [← replayed] at kept ends
  have alike : EndsAlike rows.length d.result ran.result := by
    rw [← written, result, outcome]
    exact ends
  exact ⟨decoding, kept.trans written, alike.iff⟩

/-- The capture ends while the payload of two swapped packets awaits its retry, which gives the only row. -/
theorem DecodeRequest.run_agrees_swapped :
    let r : DecodeRequest := { capture := .stdin, raw := true }
    let packets : List Bytes := [[4, 8], [16, 100], [1]]
    let text := String.ofList (Capture.ofPackets packets)
    let files : Files := { create := fun _ => .ok (), read := fun _ => .content (Bytes.ofText text) }
    let t := Transfer.new r.settings .builtin ({} : RowList)
    (RowSink.NeverFails ({} : RowList) ∧ Capture.Layout packets text.toList ∧
        r.Finds files (Bytes.ofText text)) ∧
      (t.drive packets .closed).result = .error .disconnected ∧ (t.rowsDriven packets .closed).length = 1 ∧
      (r.run files).code = ExitCode.failure ∧ (r.run files).result = .error (Capture.tooShort 1) := by
  intro r packets text files t
  have faithful : RowSink.NeverFails ({} : RowList) := RowSink.neverFails_rowList _
  have layout : Capture.Layout packets text.toList := by
    rw [String.toList_ofList]
    exact Capture.layout_ofPackets (by decide)
  have found : r.Finds files (Bytes.ofText text) := rfl
  have closed : (t.drive packets .closed).result = .error .disconnected := by decide +kernel
  have one : (t.rowsDriven packets .closed).length = 1 := by decide +kernel
  obtain ⟨-, -, -, code, short, -⟩ := r.run_agrees faithful layout found
  have result := short.1 closed
  rw [show (Transfer.rowsDriven _ packets .closed).length = 1 from one] at result
  exact ⟨⟨faithful, layout, found⟩, closed, one, code.1 closed, result⟩

end SensorLog
