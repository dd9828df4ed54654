import SensorLog.Proofs.Frame.Reading

/-!
# The front of a byte stream

`frontOf` splits the first frame off a byte string. A step of reading in arrival order sees the
front of the bytes that the reader has not used up, wherever the borders of its packets lie and
whether or not the length byte was taken before (`next_front`).
-/

namespace SensorLog

/-- What the front of a byte string holds. -/
inductive Front
  /-- Not a whole frame. -/
  | starved
  /-- A length of zero. -/
  | zeroLength
  /-- A payload, and the bytes behind it. -/
  | payload (window rest : Bytes)

/-- The front of a byte string: a length byte and as many bytes of payload. -/
def frontOf : Bytes → Front
  | [] => .starved
  | b :: rest =>
    if b = 0 then .zeroLength
    else if rest.length < b.toNat then .starved
    else .payload (rest.take b.toNat) (rest.drop b.toNat)

theorem length_rest_lt {input window rest : Bytes} (front : frontOf input = .payload window rest) :
    rest.length < input.length := by
  cases input with
  | nil => cases front
  | cons b tail =>
      simp only [frontOf] at front
      split at front
      · cases front
      · split at front
        · cases front
        · cases front
          simp only [List.length_drop, List.length_cons]
          omega

theorem suffix_of_payload {input window rest : Bytes} (front : frontOf input = .payload window rest) :
    rest <:+ input := by
  cases input with
  | nil => cases front
  | cons b tail =>
      simp only [frontOf] at front
      split at front
      · cases front
      · split at front
        · cases front
        · cases front
          exact (List.drop_suffix _ _).trans (List.suffix_cons _ _)

/-- A frame that is there stays there when more bytes arrive. -/
theorem frontOf_append_of_payload {input window rest : Bytes} (more : Bytes)
    (front : frontOf input = .payload window rest) :
    frontOf (input ++ more) = .payload window (rest ++ more) := by
  cases input with
  | nil => cases front
  | cons b tail =>
      simp only [frontOf, List.cons_append] at front ⊢
      split at front
      · cases front
      · rename_i nonzero
        split at front
        · cases front
        · rename_i enough
          cases front
          rw [if_neg nonzero, if_neg (by rw [List.length_append]; omega),
            List.take_append_of_le_length (by omega), List.drop_append_of_le_length (by omega)]

theorem frontOf_append_of_zeroLength {input : Bytes} (more : Bytes)
    (front : frontOf input = .zeroLength) : frontOf (input ++ more) = .zeroLength := by
  cases input with
  | nil => cases front
  | cons b tail =>
      simp only [frontOf, List.cons_append] at front ⊢
      split at front
      · rename_i zero
        exact if_pos zero
      · split at front
        · cases front
        · cases front

theorem toNat_lengthByte {size : Nat} (bounded : size ≤ 255) : (UInt8.ofNat size).toNat = size :=
  UInt8.toNat_ofNat_of_lt' (by simpa [UInt8.size] using Nat.lt_succ_of_le bounded)

theorem lengthByte_ne_zero {size : Nat} (positive : 0 < size) (bounded : size ≤ 255) :
    UInt8.ofNat size ≠ 0 := by
  intro zero
  have byte := toNat_lengthByte bounded
  rw [zero] at byte
  exact absurd byte (Nat.ne_of_lt positive)

/-- A length and a payload of that length are at the front. -/
theorem frontOf_frame {payload : Bytes} (positive : 0 < payload.length) (bounded : payload.length ≤ 255)
    (rest : Bytes) : frontOf (UInt8.ofNat payload.length :: (payload ++ rest)) = .payload payload rest := by
  simp only [frontOf, if_neg (lengthByte_ne_zero positive bounded), toNat_lengthByte bounded]
  rw [if_neg (by rw [List.length_append]; omega), List.take_left, List.drop_left]

/-- A part of a frame that lacks bytes at its end is no whole frame. -/
theorem frontOf_of_prefix {payload before after : Bytes} (positive : 0 < payload.length)
    (bounded : payload.length ≤ 255) (cut : before ++ after = UInt8.ofNat payload.length :: payload)
    (lacking : after ≠ []) : frontOf before = .starved := by
  cases before with
  | nil => rfl
  | cons b before =>
      rw [List.cons_append, List.cons.injEq] at cut
      obtain ⟨rfl, cut⟩ := cut
      have length := congrArg List.length cut
      have missing : 0 < after.length := List.length_pos_iff.2 lacking
      rw [List.length_append] at length
      simp only [frontOf, if_neg (lengthByte_ne_zero positive bounded), toNat_lengthByte bounded]
      rw [if_pos (by omega)]

namespace FrameReader

variable {r : FrameReader} {codec : RecordCodec}

/-- What a step in arrival order makes of the unread bytes: the outcome, and the bytes that are still
    unread after it. -/
inductive FrontReading (codec : RecordCodec) (unread : Bytes) : Except FrameError Outcome → Bytes → Prop
  | starved (front : frontOf unread = .starved) : FrontReading codec unread (.ok .needMore) unread
  | zeroLength (front : frontOf unread = .zeroLength) (left : Bytes) :
      FrontReading codec unread (.error .zeroLengthFrame) left
  | frame {window rest : Bytes} (record : Record) (front : frontOf unread = .payload window rest)
      (decoded : codec.decode window = .ok record) (more : record.isEndOfLog = false) :
      FrontReading codec unread (.ok (.frame record)) rest
  | endOfLog {window rest : Bytes} (record : Record) (front : frontOf unread = .payload window rest)
      (decoded : codec.decode window = .ok record) (last : record.isEndOfLog = true) :
      FrontReading codec unread (.ok .endOfLog) rest
  | mismatch {window rest : Bytes} (cause : SchemaError)
      (front : frontOf unread = .payload window rest) (failed : codec.decode window = .error cause)
      (final : cause.isMismatch = true) : FrontReading codec unread (.error (.schema cause)) unread
  | corrupt {window rest : Bytes} (cause : SchemaError)
      (front : frontOf unread = .payload window rest) (failed : codec.decode window = .error cause)
      (mendable : cause.isMismatch = false) : FrontReading codec unread (.ok (.corrupt cause)) unread

theorem frontOf_of_begins {size : Nat} {begun : FrameReader} (begins : r.Begins size begun)
    (sound : r.Sound) : frontOf r.unread =
      if begun.queue.size < size then .starved
      else .payload (begun.queue.peek size none) (begun.queue.stream.drop size) := by
  obtain ⟨positive, bounded⟩ := begins.bounds sound
  rw [begins.unread_eq sound, (begins.sound sound).queue.count, PacketQueue.peek_none]
  simp only [frontOf, if_neg (lengthByte_ne_zero positive bounded), toNat_lengthByte bounded]

theorem unread_remember (size : Nat) (raw : Bytes) (error? : Option SchemaError) :
    (r.remember size raw error?).unread = r.unread := rfl

theorem unread_consumed (size : Nat) (raw : Bytes) :
    (r.accept (r.queue.consume size none) size raw).unread = r.queue.stream.drop size := by
  rw [unread_of_fresh rfl]
  exact PacketQueue.stream_consume_none _ _

theorem Begins.unread_begun {size : Nat} {begun : FrameReader} (begins : r.Begins size begun)
    (sound : r.Sound) : begun.unread = r.unread := by
  rw [begins.unread_eq sound, unread_of_pending begins.pending_eq]

theorem Reading.front {outcome : Except FrameError Outcome} {reader : FrameReader}
    (read : r.Reading codec none outcome reader) (sound : r.Sound) :
    FrontReading codec r.unread outcome reader.unread := by
  cases read with
  | idle fresh empty =>
      apply FrontReading.starved
      rw [unread_of_fresh fresh, empty]
      rfl
  | zero queue fresh head =>
      apply FrontReading.zeroLength
      rw [unread_of_fresh fresh, (sound.queue.getByte head).2]
      rfl
  | payload begins read =>
      have front := frontOf_of_begins begins sound
      have same := begins.unread_begun sound
      cases read with
      | short few =>
          rw [if_pos few] at front
          rw [same]
          exact .starved front
      | frame record enough decoded more =>
          rw [if_neg (Nat.not_lt.2 enough)] at front
          rw [unread_consumed]
          exact .frame record front decoded more
      | endOfLog record enough decoded last =>
          rw [if_neg (Nat.not_lt.2 enough)] at front
          rw [unread_consumed]
          exact .endOfLog record front decoded last
      | mismatch cause enough failed final =>
          rw [if_neg (Nat.not_lt.2 enough)] at front
          rw [unread_remember, same]
          exact .mismatch cause front failed final
      | corrupt cause enough failed mendable =>
          rw [if_neg (Nat.not_lt.2 enough)] at front
          rw [unread_remember, same]
          exact .corrupt cause front failed mendable

/-- A step in arrival order reads the front of the unread bytes. -/
theorem next_front (sound : r.Sound) (codec : RecordCodec) :
    FrontReading codec r.unread (r.next codec none).outcome (r.next codec none).reader.unread :=
  (next_reading sound codec none).front sound

end FrameReader

end SensorLog
