import SensorLog.Proofs.Transfer.Settling

/-!
# Where frame errors come from

A packet fails a transfer by the bytes that wait then, or because it finds no room (`Sound.fault_or_full`).
`Setup.Fault` lists the errors that bytes lead to, each with the payload that is at fault. The errors of
queues and packet orders are not among them.
-/

namespace SensorLog

/-- The errors that bytes lead to once they are in the queue. -/
inductive Setup.Fault (setup : Setup) : FrameError → Prop
  | zeroLengthFrame : Fault setup .zeroLengthFrame
  | mismatch {payload : Bytes} {cause : SchemaError} (failed : setup.codec.decode payload = .error cause)
      (final : cause.isMismatch = true) : Fault setup (.schema cause)
  | unknownColumn {payload : Bytes} {record : Record} {cause : SchemaError}
      (decoded : setup.codec.decode payload = .ok record)
      (unknown : record.cells.mapM setup.value = .error cause) : Fault setup (.schema cause)
  | unrecoverable (attempts : Nat) {payload : Bytes} {cause : SchemaError}
      (failed : setup.codec.decode payload = .error cause) (mendable : cause.isMismatch = false) :
      Fault setup (.unrecoverable attempts cause)

namespace FrameReader

variable {r reader : FrameReader} {setup : Setup} {order? : Option PacketOrder}

theorem Reading.fault {cause : FrameError} (read : r.Reading setup.codec order? (.error cause) reader) :
    setup.Fault cause := by
  cases read with
  | zero => exact .zeroLengthFrame
  | payload begins read =>
      cases read with
      | mismatch cause enough failed final => exact .mismatch failed final

/-- A payload that is kept for another attempt did not decode, and the registry is not to blame. -/
theorem Reading.corrupted {codec : RecordCodec} {cause : SchemaError}
    (read : r.Reading codec order? (.ok (.corrupt cause)) reader) :
    ∃ payload, codec.decode payload = .error cause ∧ cause.isMismatch = false := by
  cases read with
  | payload begins read =>
      cases read with
      | corrupt _ enough failed mendable => exact ⟨_, failed, mendable⟩

end FrameReader

namespace Transfer

variable {σ : Type} [RowSink σ] {t : Transfer σ} {plan : RetryPlan} {cause : FrameError}

theorem finish_ne_frame (t : Transfer σ) (cause : FrameError) : t.finish.result ≠ .error (.frame cause) := by
  rcases t.finish_cases with ⟨sink, -, whole⟩ | ⟨sink, cause', -, refused⟩
  · rw [whole]
    exact nofun
  · rw [refused]
    exact nofun

theorem Sound.fault_of_stop {reply : Reply σ} (sound : Sound plan t) (turn : t.turn = .stop reply)
    (failed : reply.result = .error (.frame cause)) : t.setup.Fault cause := by
  have read := sound.reading
  cases case_of_turn turn with
  | limit reached events => exact absurd failed (t.finish_ne_frame cause)
  | ended below outcome events => exact absurd failed (t.decoded.finish_ne_frame cause)
  | broken cause' below outcome events =>
      rw [outcome] at read
      cases failed
      exact @FrameReader.Reading.fault _ _ t.setup _ _ read
  | unknownColumn record cause' below outcome unknown events =>
      rw [outcome] at read
      obtain ⟨payload, decoded⟩ := read.decoded
      rw [convertAll_eq] at unknown
      cases failed
      exact .unknownColumn decoded unknown
  | exhausted cause' below outcome spent events =>
      rw [outcome] at read
      obtain ⟨payload, undecoded, mendable⟩ := read.corrupted
      cases failed
      exact .unrecoverable _ undecoded mendable
  | starved below outcome events => cases failed
  | refused record values sink cause' below outcome converted answer events => cases failed
  | retry cause' below outcome within events => cases failed

theorem Sound.fault_of_advance (sound : Sound plan t)
    (failed : t.advance.result = .error (.frame cause)) : t.setup.Fault cause := by
  induction t using advance_induction with
  | stop t reply turn =>
      rw [advance_of_stop turn] at failed
      exact sound.fault_of_stop turn failed
  | again t t' events turn ih =>
      rw [advance_of_again turn] at failed
      have fault := ih (sound.of_again turn).1 failed
      rwa [setup_of_again turn] at fault

/-- A frame error of a packet comes from bytes, unless there was no room for the packet. -/
theorem Sound.fault_or_full {packet : Bytes} (sound : Sound plan t)
    (failed : (t.feed packet).result = .error (.frame cause)) :
    t.setup.Fault cause ∨ (cause = .bufferFull t.reader.queue.capacity ∧ t.phase = .running ∧
      t.reader.queue.capacity = t.reader.queue.packets.length) := by
  by_cases running : t.phase = .running
  · rcases sound.feed_cases running packet with ⟨queue, -, advances, sound', -, -⟩ | ⟨-, full, exact⟩
    · rw [advances] at failed
      have fault := sound'.fault_of_advance failed
      exact .inl fault
    · rw [full] at failed
      cases failed
      exact .inr ⟨rfl, running, exact⟩
  · rcases (feed_of_ended running packet).2 with complete | closed
    · rw [complete] at failed
      cases failed
    · rw [closed] at failed
      cases failed

theorem Sound.fault_of_feeds (sound : Sound plan t) {packets : List Bytes}
    (failed : .error (.frame cause) ∈ (t.feeds packets).results) :
    t.setup.Fault cause ∨ ∃ capacity, cause = .bufferFull capacity := by
  induction packets generalizing t with
  | nil => cases failed
  | cons packet rest ih =>
      rw [feeds_cons] at failed
      rcases List.mem_cons.1 failed with first | later
      · exact (sound.fault_or_full first.symm).imp_right fun full => ⟨_, full.1⟩
      · have fault := ih (sound.feed packet) later
        rwa [setup_feed] at fault

/-- So do the errors of calls. -/
theorem Sound.fault_of_run (sound : Sound plan t) {calls : List Call}
    (failed : .error (.frame cause) ∈ (t.run calls).results) :
    t.setup.Fault cause ∨ ∃ capacity, cause = .bufferFull capacity := by
  have opened : TransferError.frame cause ≠ .closed := nofun
  exact sound.fault_of_feeds ((error_mem_run_iff opened t calls).1 failed)

end Transfer

end SensorLog
