import SensorLog.Proofs.Record.Carried
import SensorLog.Proofs.Transfer.LifeCycle
import SensorLog.Proofs.Transfer.Settling

/-!
# Data is no end of the log

The record that ends a log is one with a single column. A payload that carries another field of an entry than
the timestamp makes no such record, so no reader takes it for the end and no transfer is complete because of it
(`data_is_no_end`). Fields that are no field of an entry, and packed runs without numbers, are not seen in the
record: a payload with nothing else than these and a timestamp ends the log (`endOfLog_unseen`).
-/

namespace SensorLog

/-- One of the occurrences carries another field of an entry than the timestamp. -/
def Wire.HasData (occurrences : List Wire.Occurrence) : Prop :=
  ∃ o ∈ occurrences, ∃ f : EntryField, f ≠ .timestamp ∧ o.Carries f

theorem Wire.Message.ne_nil {occurrences : List Wire.Occurrence} {payload : Bytes}
    (message : Wire.Message occurrences payload) (data : Wire.HasData occurrences) : payload ≠ [] := by
  cases message with
  | nil =>
      obtain ⟨o, member, -⟩ := data
      cases member
  | plain opens valued follows => exact List.append_ne_nil_of_left_ne_nil opens.ne_nil _
  | group opens inside closes follows => exact List.append_ne_nil_of_left_ne_nil opens.ne_nil _

namespace FrameReader

variable {r reader : FrameReader} {codec : RecordCodec} {order? : Option PacketOrder}
  {outcome : Except FrameError Outcome} {payload : Bytes}

/-- The frame that a step looks at is there in full, with this payload. -/
def Shows (r : FrameReader) (order? : Option PacketOrder) (payload : Bytes) : Prop :=
  r.window order? = UInt8.ofNat payload.length :: payload

/-- What a step makes of a payload that is there in full is up to the codec. -/
theorem Reading.of_shows (read : r.Reading codec order? outcome reader) (sound : r.Sound)
    (shown : r.Shows order? payload) (some : payload ≠ []) :
    (∃ record, codec.decode payload = .ok record ∧
        outcome = .ok (if record.isEndOfLog then .endOfLog else .frame record)) ∨
      ∃ cause, codec.decode payload = .error cause ∧
        outcome = if cause.isMismatch then .error (.schema cause) else .ok (.corrupt cause) := by
  unfold Shows at shown
  cases read with
  | idle fresh empty =>
      simp only [window, fresh, PacketQueue.getByte_of_empty empty sound.queue] at shown
      cases shown
  | zero queue fresh head =>
      simp only [window, fresh, head] at shown
      obtain ⟨-, rfl⟩ := List.cons.inj shown
      have length := PacketQueue.length_peek (sound.queue.getByte head).1 (0 : UInt8).toNat order?
      exact absurd (List.eq_nil_of_length_eq_zero (length.trans (Nat.zero_min _))) some
  | @payload size _ _ _ begins read =>
      rw [begins.window_eq] at shown
      obtain ⟨length, rfl⟩ := List.cons.inj shown
      cases read with
      | short few =>
          have begunSound := begins.sound sound
          obtain ⟨-, bounded⟩ := begins.bounds sound
          have seen := PacketQueue.length_peek begunSound.queue size order?
          have announced := congrArg UInt8.toNat length
          rw [UInt8.toNat_ofNat', UInt8.toNat_ofNat'] at announced
          omega
      | frame record enough decoded more => exact .inl ⟨record, decoded, by rw [more]; rfl⟩
      | endOfLog record enough decoded last => exact .inl ⟨record, decoded, by rw [last]; rfl⟩
      | mismatch cause enough failed final => exact .inr ⟨cause, failed, by rw [final]; rfl⟩
      | corrupt cause enough failed mendable => exact .inr ⟨cause, failed, by rw [mendable]; rfl⟩

/-- Data is a frame with more than one column, or is kept for another attempt. -/
theorem Reading.of_data {occurrences : List Wire.Occurrence}
    (read : r.Reading Registry.builtin.codec order? outcome reader) (sound : r.Sound)
    (shown : r.Shows order? payload) (message : Wire.Message occurrences payload)
    (data : Wire.HasData occurrences) :
    (∃ record, outcome = .ok (.frame record) ∧ 1 < record.size) ∨
      ∃ cause, outcome = .ok (.corrupt cause) := by
  rcases read.of_shows sound shown (message.ne_nil data) with
    ⟨record, decoded, gives⟩ | ⟨cause, failed, gives⟩
  · obtain ⟨o, member, f, other, carries⟩ := data
    have size := Registry.size_of_decode message member carries other decoded
    have more : record.isEndOfLog = false := beq_false_of_ne (Nat.ne_of_gt size)
    rw [more] at gives
    exact .inl ⟨record, gives, size⟩
  · rw [Registry.isMismatch_builtin failed] at gives
    exact .inr ⟨cause, gives⟩

end FrameReader

namespace Transfer

variable {σ : Type} [RowSink σ] {t u v : Transfer σ} {plan : RetryPlan} {ps qs : List (Transfer σ)}

/-! ## How a transfer comes to be complete -/

/-- What the passes between two transfers have in common, and how the later one came to be complete. -/
structure Passed (plan : RetryPlan) (t : Transfer σ) (passes : List (Transfer σ)) (last : Transfer σ) : Prop where
  kept : ∀ p ∈ passes, Sound plan p ∧ p.setup = t.setup
  complete : last.phase = .complete → ∃ p ∈ passes, p.AtEnd

omit [RowSink σ] in
theorem Passed.nil (running : t.phase = .running) : Passed plan t [] t where
  kept := nofun
  complete := by
    intro complete
    rw [running] at complete
    cases complete

omit [RowSink σ] in
theorem Passed.append (first : Passed plan t ps u) (second : Passed plan u qs v) (same : u.setup = t.setup) :
    Passed plan t (ps ++ qs) v where
  kept := by
    intro p member
    rcases List.mem_append.1 member with early | late
    · exact first.kept p early
    · obtain ⟨sound, setup⟩ := second.kept p late
      exact ⟨sound, setup.trans same⟩
  complete := by
    intro complete
    obtain ⟨p, late, ended⟩ := second.complete complete
    exact ⟨p, List.mem_append_right ps late, ended⟩

theorem Sound.passed_of_stop {reply : Reply σ} (sound : Sound plan t) (running : t.phase = .running)
    (turn : t.turn = .stop reply) : Passed plan t [t] reply.transfer where
  kept := by
    intro p member
    rw [List.mem_singleton.1 member]
    exact ⟨sound, rfl⟩
  complete := by
    intro complete
    refine ⟨t, .head _, ?_⟩
    cases case_of_turn turn with
    | limit reached events => exact .inl reached
    | ended below outcome events => exact .inr outcome
    | starved below outcome events => exact absurd (running.symm.trans complete) nofun
    | retry cause below outcome within events => exact absurd (running.symm.trans complete) nofun
    | broken cause below outcome events => cases complete
    | unknownColumn record cause below outcome unknown events => cases complete
    | refused record values sink cause below outcome converted answer events => cases complete
    | exhausted cause below outcome spent events => cases complete

theorem Sound.passed_advance (sound : Sound plan t) (running : t.phase = .running) :
    Passed plan t t.passes t.advance.transfer := by
  induction t using advance_induction with
  | stop t reply turn =>
      rw [passes_of_stop turn, advance_of_stop turn]
      exact sound.passed_of_stop running turn
  | again t t' events turn ih =>
      obtain ⟨sound', phase⟩ := sound.of_again turn
      have running' : t'.phase = .running := phase.trans running
      have first : Passed plan t [t] t' := by
        constructor
        · intro p member
          rw [List.mem_singleton.1 member]
          exact ⟨sound, rfl⟩
        · intro complete
          exact absurd (running'.symm.trans complete) nofun
      rw [passes_of_again turn, advance_of_again turn]
      exact first.append (ih sound' running') (setup_of_again turn)

theorem Sound.passed_feed (sound : Sound plan t) (running : t.phase = .running) (packet : Bytes) :
    Passed plan t (t.passesOf packet) (t.feed packet).transfer := by
  rw [passesOf_of_running running]
  rcases sound.feed_cases running packet with ⟨queue, written, advances, sound', -, -⟩ | ⟨refused, full, -⟩
  · rw [written, advances]
    have passed := sound'.passed_advance running
    exact ⟨passed.kept, passed.complete⟩
  · rw [refused, full]
    exact ⟨nofun, nofun⟩

theorem Sound.passed_feeds (sound : Sound plan t) (running : t.phase = .running) (packets : List Bytes) :
    Passed plan t (t.passesOver packets) (t.feeds packets).transfer := by
  induction packets generalizing t with
  | nil => exact .nil running
  | cons packet rest ih =>
      have first := sound.passed_feed running packet
      rw [passesOver, feeds_cons]
      by_cases running' : (t.feed packet).transfer.phase = .running
      · exact first.append (ih (sound.feed packet) running') (setup_feed t packet)
      · rw [passesOver_of_ended running', transfer_feeds_of_ended running', List.append_nil]
        exact first

/-- A payload with data is never taken for the end of the log. Whatever led to a reader that shows it, the next
    step does not end the log, and if all fields are fields of an entry, it gives a frame with more than one
    column or keeps the payload as corrupt. A transfer that is complete came to the end in one of its passes, and
    each pass that came to the end had reached the entry limit or did not show such a payload. -/
theorem data_is_no_end {payload : Bytes} {occurrences : List Wire.Occurrence}
    (message : Wire.Message occurrences payload) (data : Wire.HasData occurrences) :
    (∀ (r : FrameReader) (order? : Option PacketOrder), r.Reachable Registry.builtin.codec →
      r.Shows order? payload →
        let outcome := (r.next Registry.builtin.codec order?).outcome
        outcome ≠ .ok .endOfLog ∧
        ((∀ o ∈ occurrences, ∃ f : EntryField, o.key.tag = f.tag) →
          (∃ record, outcome = .ok (.frame record) ∧ 1 < record.size) ∨ ∃ cause, outcome = .ok (.corrupt cause))) ∧
    ∀ (settings : Settings) (sink : σ) (calls : List Call),
      let t := Transfer.new settings .builtin sink
      let passes := t.passesOver (t.packetsOf calls)
      ((t.run calls).transfer.phase = .complete → ∃ p ∈ passes, p.AtEnd) ∧
        ∀ p ∈ passes, p.AtEnd → p.limitReached = true ∨ ¬ p.reader.Shows p.retries.order? payload := by
  constructor
  · intro r order? reached shown
    have gives := (FrameReader.next_reading reached.sound _ order?).of_data reached.sound shown message data
    constructor
    · intro ended
      rcases gives with ⟨record, frame, -⟩ | ⟨cause, corrupt⟩
      · rw [frame] at ended
        cases ended
      · rw [corrupt] at ended
        cases ended
    · exact fun _ => gives
  · intro settings sink calls t passes
    have sound : Sound settings.plan t := .fresh settings .builtin _ sink
    have passed := sound.passed_feeds rfl (t.packetsOf calls)
    constructor
    · rw [transfer_run]
      exact passed.complete
    · intro p member ended
      obtain ⟨sound', setup⟩ := passed.kept p member
      refine ended.imp_right ?_
      intro last shown
      have read := sound'.reading
      have codec : p.codec = Registry.builtin.codec := congrArg Setup.codec setup
      rw [codec, last] at read
      rcases read.of_data sound'.reader shown message data with ⟨record, frame, -⟩ | ⟨cause, corrupt⟩
      · cases frame
      · cases corrupt

/-- A pressure of 100 behind a timestamp. -/
theorem data_is_no_end_pressure :
    let occurrences : List Wire.Occurrence := [⟨⟨1, .varint⟩, [0x01]⟩, ⟨⟨2, .varint⟩, [0x64]⟩]
    let payload : Bytes := [0x08, 0x01, 0x10, 0x64]
    let r : FrameReader := { queue := ⟨1, [4 :: payload], 5⟩, log := { limit := 1 } }
    Wire.Message occurrences payload ∧ Wire.HasData occurrences ∧ r.Reachable Registry.builtin.codec ∧
      r.Shows none payload ∧ (r.next Registry.builtin.codec none).outcome ≠ .ok .endOfLog := by
  intro occurrences payload r
  have message : Wire.Message occurrences payload := by
    show Wire.Message occurrences ([0x08] ++ ([0x01] ++ ([0x10] ++ ([0x64] ++ []))))
    apply Wire.Message.plain (.of_byte (by decide) (by decide) (by decide)) (.varint (.of_byte (by decide)))
    exact .plain (.of_byte (by decide) (by decide) (by decide)) (.varint (.of_byte (by decide))) .nil
  have data : Wire.HasData occurrences := ⟨_, .tail _ (.head _), .pressure, by decide, rfl, by decide⟩
  have written : (FrameReader.new 1 1).write (4 :: payload) = .ok r := by decide
  have reached : r.Reachable Registry.builtin.codec := .write (.new 1 1) written
  have shown : r.Shows none payload := by
    show r.window none = _
    decide
  have never := (@data_is_no_end RowList _ _ _ message data).1 r none reached shown
  exact ⟨message, data, reached, shown, never.1⟩

/-- Two messages that end the log although they have another field than the timestamp: number 5 under the tag
    16, which is no field of an entry, and a compass run without numbers. -/
theorem endOfLog_unseen :
    let unknown : List Wire.Occurrence := [⟨⟨1, .varint⟩, [0x01]⟩, ⟨⟨16, .varint⟩, [0x05]⟩]
    let empty : List Wire.Occurrence := [⟨⟨1, .varint⟩, [0x01]⟩, ⟨⟨5, .lengthDelimited⟩, []⟩]
    let ends (payload : Bytes) : Prop := ∃ r : FrameReader, r.Reachable Registry.builtin.codec ∧
      r.Shows none payload ∧ (r.next Registry.builtin.codec none).outcome = .ok .endOfLog
    (Wire.Message unknown [0x08, 0x01, 0x80, 0x01, 0x05] ∧ ends [0x08, 0x01, 0x80, 0x01, 0x05]) ∧
      Wire.Message empty [0x08, 0x01, 0x2a, 0x00] ∧ ends [0x08, 0x01, 0x2a, 0x00] := by
  intro unknown empty ends
  refine ⟨⟨?_, ?_⟩, ?_, ?_⟩
  · show Wire.Message unknown ([0x08] ++ ([0x01] ++ ([0x80, 0x01] ++ ([0x05] ++ []))))
    apply Wire.Message.plain (.of_byte (by decide) (by decide) (by decide)) (.varint (.of_byte (by decide)))
    have tag : Wire.Key.Spells ⟨16, .varint⟩ [0x80, 0x01] :=
      ⟨by decide, by decide, .more 0x80 (by decide) (.last 0x01 (by decide)), by decide, by decide⟩
    exact .plain tag (.varint (.of_byte (by decide))) .nil
  · have written : (FrameReader.new 1 1).write [0x05, 0x08, 0x01, 0x80, 0x01, 0x05]
        = .ok { queue := ⟨1, [[0x05, 0x08, 0x01, 0x80, 0x01, 0x05]], 6⟩, log := { limit := 1 } } := by decide
    exact ⟨_, .write (.new 1 1) written, by unfold FrameReader.Shows; decide, by decide +kernel⟩
  · show Wire.Message empty ([0x08] ++ ([0x01] ++ ([0x2a] ++ (([0x00] ++ []) ++ []))))
    apply Wire.Message.plain (.of_byte (by decide) (by decide) (by decide)) (.varint (.of_byte (by decide)))
    have size : Wire.Spells ([] : Bytes).length [0x00] := @Wire.Spells.of_byte 0x00 (by decide)
    exact .plain (.of_byte (by decide) (by decide) (by decide)) (.lengthDelimited size) .nil
  · have written : (FrameReader.new 1 1).write [0x04, 0x08, 0x01, 0x2a, 0x00]
        = .ok { queue := ⟨1, [[0x04, 0x08, 0x01, 0x2a, 0x00]], 5⟩, log := { limit := 1 } } := by decide
    exact ⟨_, .write (.new 1 1) written, by unfold FrameReader.Shows; decide, by decide +kernel⟩

end Transfer

end SensorLog
