import SensorLog.Proofs.Transfer.Faults
import SensorLog.Proofs.Transfer.Headers

/-!
# What is offered to a sink

A transfer writes no other rows than those of its payloads, with their values. So a property of all of these is one
of all rows that a run offers to its sink, taken or refused (`offered_run`).
-/

namespace SensorLog

/-- All rows that payloads can give have a property. -/
def Setup.Gives (setup : Setup) (P : Row → Prop) : Prop :=
  ∀ payload record values header, setup.codec.decode payload = .ok record →
    record.cells.mapM setup.value = .ok values → P { columns := record.columns, values, header }

namespace Transfer

variable {σ : Type} [RowSink σ] {t : Transfer (Noted σ)} {plan : RetryPlan} {P : Row → Prop}

theorem offered_write {record : Record} {values : List Value} {s : Noted σ} {result : Except IoError Unit}
    (sound : Sound plan t) (gives : t.setup.Gives P) (kept : ∀ row ∈ t.sink.offered, P row)
    (outcome : t.step.outcome = .ok (.frame record)) (converted : t.decoded.convertAll record.cells = .ok values)
    (answer : RowSink.write t.sink (t.rowOf record values) = (s, result)) : ∀ row ∈ s.offered, P row := by
  have read := sound.reading
  rw [outcome] at read
  obtain ⟨payload, decoded⟩ := read.decoded
  rw [convertAll_eq] at converted
  have offered : s.offered = t.sink.offered ++ [t.rowOf record values] :=
    Noted.offered_of_call (c := .write (t.rowOf record values)) answer
  rw [offered]
  exact List.forall_mem_append.2 ⟨kept, List.forall_mem_singleton.2 (gives payload record values _ decoded converted)⟩

theorem offered_finish (kept : ∀ row ∈ t.sink.offered, P row) :
    ∀ row ∈ t.finish.transfer.sink.offered, P row := by
  obtain ⟨sink, result, phase, answer, finished, -⟩ := t.transfer_finish
  have offered : sink.offered = t.sink.offered ++ [] := Noted.offered_of_call (c := .flush) answer
  rw [finished]
  show ∀ row ∈ sink.offered, P row
  rwa [offered, List.append_nil]

theorem offered_of_stop {reply : Reply (Noted σ)} (sound : Sound plan t) (gives : t.setup.Gives P)
    (kept : ∀ row ∈ t.sink.offered, P row) (turn : t.turn = .stop reply) :
    ∀ row ∈ reply.transfer.sink.offered, P row := by
  cases case_of_turn turn with
  | limit reached events => exact offered_finish kept
  | ended below outcome events => exact offered_finish (t := t.decoded) kept
  | refused record values sink cause below outcome converted answer events =>
      exact offered_write sound gives kept outcome converted answer
  -- No row is written.
  | starved below outcome events => exact kept
  | broken cause below outcome events => exact kept
  | unknownColumn record cause below outcome unknown events => exact kept
  | retry cause below outcome within events => exact kept
  | exhausted cause below outcome spent events => exact kept

theorem offered_of_again {t' : Transfer (Noted σ)} {events : List Event} (sound : Sound plan t)
    (gives : t.setup.Gives P) (kept : ∀ row ∈ t.sink.offered, P row) (turn : t.turn = .again t' events) :
    ∀ row ∈ t'.sink.offered, P row := by
  cases case_of_turn turn with
  | written record values sink below outcome converted answer events =>
      exact offered_write sound gives kept outcome converted answer

theorem offered_advance (sound : Sound plan t) (gives : t.setup.Gives P) (kept : ∀ row ∈ t.sink.offered, P row) :
    ∀ row ∈ t.advance.transfer.sink.offered, P row := by
  induction t using advance_induction with
  | stop t reply turn =>
      rw [advance_of_stop turn]
      exact offered_of_stop sound gives kept turn
  | again t t' events turn ih =>
      rw [advance_of_again turn]
      exact ih (sound.of_again turn).1 (setup_of_again turn ▸ gives) (offered_of_again sound gives kept turn)

theorem offered_feed (sound : Sound plan t) (gives : t.setup.Gives P) (kept : ∀ row ∈ t.sink.offered, P row)
    (packet : Bytes) : ∀ row ∈ (t.feed packet).transfer.sink.offered, P row := by
  by_cases running : t.phase = .running
  · rcases sound.feed_cases running packet with ⟨queue, -, advances, sound', -, -⟩ | ⟨-, full, -⟩
    · rw [advances]
      exact offered_advance sound' gives kept
    · rw [full]
      exact kept
  · rw [(feed_of_ended running packet).1]
    exact kept

theorem offered_feeds (sound : Sound plan t) (gives : t.setup.Gives P) (kept : ∀ row ∈ t.sink.offered, P row)
    (packets : List Bytes) : ∀ row ∈ (t.feeds packets).transfer.sink.offered, P row := by
  induction packets generalizing t with
  | nil => exact kept
  | cons packet rest ih =>
      rw [feeds_cons]
      exact ih (sound.feed packet) (setup_feed t packet ▸ gives) (offered_feed sound gives kept packet)

/-- All rows that a run of calls offers to its sink are rows of payloads. -/
theorem offered_run (settings : Settings) (registry : Registry) (codec : RecordCodec) (sink : σ)
    (gives : Setup.Gives ⟨settings, registry, codec⟩ P) (calls : List Call) :
    ∀ row ∈ ((ofCodec settings registry codec ({ sink } : Noted σ)).run calls).transfer.sink.offered, P row := by
  rw [transfer_run]
  exact offered_feeds (.fresh settings registry codec _) gives (List.forall_mem_nil _) _

end Transfer

end SensorLog
