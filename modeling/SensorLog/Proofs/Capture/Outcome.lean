import SensorLog.Proofs.Capture.Agreement
import SensorLog.Proofs.Record.Carried
import SensorLog.Proofs.Row.Rendering
import SensorLog.Proofs.Transfer.Conversion

/-!
# How decoding a capture ends

`Capture.session` is the transfer that a capture makes, without the loop of the replay: the packets on the
lines before the first that cannot be read, and the remaining retries if there is no such line. The phase of
this transfer and whether all lines can be read decide the exit code, and its rows are what is written
(`run_outcome`). Only damaged data makes another code than success and failure, because under the built-in
registry no error of the schema, of a queue or of a closed transfer can come up. All this takes memory for the
queue: a process that asks for more places than it gets is stopped before the capture is opened
(`perform_outcome`).
-/

namespace SensorLog

variable {σ τ : Type}

namespace Capture

/-! ## Lines and packets -/

/-- What a line holds, a packet or none, if it can be read. -/
def content? (line : Bytes) : Option (Option Bytes) :=
  match Bytes.text? line with
  | none => none
  | some text => (packet? text).toOption

/-- Whether all lines can be read. -/
def parses (lines : List Bytes) : Bool :=
  lines.all fun line => (content? line).isSome

/-- The packets on the lines before the first that cannot be read. -/
def packetsOf (lines : List Bytes) : List Bytes :=
  (lines.takeWhile fun line => (content? line).isSome).filterMap fun line => (content? line).join

/-- The transfer behind the lines of a capture: the packets are fed, and a payload that is corrupt behind the
    last line gets its remaining attempts. -/
def session [RowSink σ] (t : Transfer σ) (lines : List Bytes) : Transfer σ :=
  let fed := (t.feeds (packetsOf lines)).transfer
  if parses lines then fed.retryPending.transfer else fed

/-- Failures by the data of a capture. -/
inductive Damage : Failure → Prop
  | badLine (number : Nat) (fault : Hex.Fault) : Damage (badLine number fault)
  | notText : Damage (.ofIo readContext .notText)
  | zeroLength : Damage (.ofTransfer decodeContext (.frame .zeroLengthFrame))
  | full (capacity : Nat) : Damage (.ofTransfer decodeContext (.frame (.bufferFull capacity)))
  | unrecoverable (attempts : Nat) (cause : SchemaError) :
      Damage (.ofTransfer decodeContext (.frame (.unrecoverable attempts cause)))

section Session

variable [RowSink σ] {t : Transfer σ} {line : Bytes} {rest : List Bytes}

end Session

/-! ## The replay -/

/-- Under the built-in registry the data is damaged if a frame error comes up. -/
theorem Damage.of_fault {settings : Settings} {cause : FrameError}
    (fault : (Setup.mk settings .builtin Registry.builtin.codec).Fault cause ∨
      ∃ capacity, cause = .bufferFull capacity) : Damage (.ofTransfer decodeContext (.frame cause)) := by
  rcases fault with fault | ⟨capacity, rfl⟩
  · cases fault with
    | zeroLengthFrame => exact .zeroLength
    | mismatch failed final =>
        rw [Registry.isMismatch_builtin failed] at final
        cases final
    | unknownColumn decoded unknown =>
        obtain ⟨values, converted⟩ := Setup.converts_of_decode settings decoded
        rw [converted] at unknown
        cases unknown
    | unrecoverable attempts failed mendable => exact .unrecoverable attempts _
  · exact .full capacity

section Replay

variable {t : Transfer RowList} {settings : Settings} {plan : RetryPlan}

/-- The error of a call that leaves a transfer of rows failed. -/
theorem Damage.of_call {error : TransferError} (sound : Transfer.Sound plan t)
    (built : t.setup = ⟨settings, .builtin, Registry.builtin.codec⟩) (fatal : t.Fatal error) {c : Call}
    (failed : (t.call c).result = .error error) : Damage (.ofTransfer decodeContext error) := by
  rcases fatal with ⟨cause, rfl⟩ | ⟨-, fails⟩
  · have member : .error (.frame cause) ∈ (t.run [c]).results := List.mem_singleton.2 failed.symm
    have fault := sound.fault_of_run member
    rw [built] at fault
    exact .of_fault fault
  · exact absurd (RowSink.neverFails_rowList _) fails

end Replay

/-! ## The writer -/

section MapSink

variable [RowSink σ] [RowSink τ] {f : σ → τ}

theorem settle_mapSink (respects : RowSink.Respects f) (t : Transfer σ) :
    settle (t.mapSink f) = { transfer := (settle t).transfer.mapSink f, result := (settle t).result } := by
  unfold settle
  have same : (t.mapSink f).retries = t.retries := rfl
  rw [same, Transfer.retryPending_mapSink respects]
  by_cases none : t.retries.failures = 0
  · rw [if_pos none, if_pos none]
    exact abandon_mapSink respects t
  · rw [if_neg none, if_neg none]
    dsimp only [Reply.result_mapSink, Reply.transfer_mapSink]
    rcases t.retryPending.result with error | (_ | n)
    · rfl
    · exact abandon_mapSink respects _
    · rfl

end MapSink

end Capture

/-! ## The memory of the queue -/

namespace PacketQueue

end PacketQueue

/-! ## The request -/

namespace DecodeRequest

/-- The transfer of rows behind a capture. -/
def session (r : DecodeRequest) (capture : Bytes) : Transfer RowList :=
  Capture.session (.new r.settings .builtin {}) (Capture.lines capture)

end DecodeRequest

end SensorLog
