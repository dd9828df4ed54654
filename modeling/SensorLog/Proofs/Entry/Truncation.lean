import SensorLog.Proofs.Entry.RoundTrip
import SensorLog.Record.Codec

/-!
# Entries cut short

The bytes of an entry are the bytes of its present fields one after another (`encode_eq_written`). Cut between
two fields they read back as the fields before the cut, cut anywhere else they do not read (`decode_take`): a
number without its last byte is none, and a run without its last bytes is shorter than it says. So a cut never
changes a value.
-/

namespace SensorLog

/-- A cut through two pieces goes through the first one, or leaves it whole. -/
theorem cut_append {α : Type} {first second front back : List α} (cut : first ++ second = front ++ back) :
    (∃ middle, middle ≠ [] ∧ first = front ++ middle) ∨
      ∃ middle, front = first ++ middle ∧ second = middle ++ back := by
  rcases List.append_eq_append_iff.1 cut with ⟨middle, whole, rest⟩ | ⟨middle, whole, rest⟩
  · exact .inr ⟨middle, whole, rest⟩
  · by_cases none : middle = []
    · subst none
      rw [List.append_nil] at whole
      exact .inr ⟨[], by rw [whole, List.append_nil], rest.symm⟩
    · exact .inl ⟨middle, none, whole⟩

namespace Wire

theorem readGroups_of_cut {room n : Nat} {front back : Bytes} (cut : writeVarint n = front ++ back)
    (short : back ≠ []) : readGroups room front = .error .invalidVarint := by
  induction room generalizing n front with
  | zero => rfl
  | succ room ih =>
      cases front with
      | nil => rfl
      | cons b front =>
          rw [writeVarint] at cut
          split at cut
          · -- The one byte of a small number is its last.
            injection cut with _ nothing
            exact absurd (List.append_eq_nil_iff.1 nothing.symm).2 short
          · injection cut with head rest
            have byte : b.toNat = n % 128 + 128 := by
              rw [← head]
              simp
              omega
            rw [readGroups, if_neg (by omega), ih rest]

/-- A number that is cut short is none. -/
theorem readVarint_of_cut {n : Nat} {front back : Bytes} (cut : writeVarint n = front ++ back)
    (short : back ≠ []) : readVarint front = .error .invalidVarint :=
  readGroups_of_cut cut short

/-- A run that is cut short ends before it says. -/
theorem readWords_of_cut {ws : List UInt32} {front back : Bytes} (bounded : (writeWords ws).length < 2 ^ 64)
    (cut : writeVarint (writeWords ws).length ++ writeWords ws = front ++ back) (short : back ≠ []) :
    ∃ cause, readWords .lengthDelimited front = .error cause := by
  rcases cut_append cut with ⟨middle, some, size⟩ | ⟨middle, rfl, words⟩
  · refine ⟨.invalidVarint, ?_⟩
    simp only [readWords, if_true, readVarint_of_cut size some]
  · have few : middle.length < (writeWords ws).length := by
      have left := List.length_pos_iff.2 short
      rw [words, List.length_append]
      omega
    refine ⟨.underflow, ?_⟩
    simp only [readWords, if_true, readVarint_writeVarint bounded, if_pos few]

end Wire

namespace EntryField

variable {f : EntryField} {ws : List UInt32} {front back : Bytes}

/-- A field that is cut short does not read. -/
theorem readField_of_cut (e : LogEntry) (writable : f.Writable ws) (cut : f.write ws = front ++ back)
    (begun : front ≠ []) (short : back ≠ []) : ∃ cause, e.readField front = .error cause := by
  have some : ws ≠ [] := by
    rintro rfl
    exact begun (List.append_eq_nil_iff.1 cut.symm).1
  -- A key takes one byte, so the cut is behind it.
  have behind {wire : WireType} {value : Bytes} (cut : Wire.Key.write ⟨f.tag, wire⟩ ++ value = front ++ back) :
      ∃ middle, front = Wire.Key.write ⟨f.tag, wire⟩ ++ middle ∧ value = middle ++ back := by
    rcases cut_append cut with ⟨middle, inside, key⟩ | found
    · have one := f.length_key wire
      have head := List.length_pos_iff.2 begun
      have rest := List.length_pos_iff.2 inside
      rw [key, List.length_append] at one
      omega
    · exact found
  cases vector : f.isVector with
  | true =>
      rw [Writable, if_pos vector] at writable
      rw [write_vector vector some] at cut
      obtain ⟨middle, rfl, value⟩ := behind cut
      obtain ⟨cause, failed⟩ := Wire.readWords_of_cut writable value short
      refine ⟨⟨f, cause⟩, ?_⟩
      simp only [LogEntry.readField, readKey_tag, ofTag?_tag, read, vector, if_true, failed]
  | false =>
      rw [Writable, if_neg (by simp [vector])] at writable
      obtain ⟨w, rfl⟩ : ∃ w, ws = [w] :=
        List.length_eq_one_iff.1 (Nat.le_antisymm writable (List.length_pos_iff.2 some))
      rw [write_single vector] at cut
      obtain ⟨middle, rfl, value⟩ := behind cut
      refine ⟨⟨f, .invalidVarint⟩, ?_⟩
      simp only [LogEntry.readField, readKey_tag, ofTag?_tag, read, vector, Bool.false_eq_true, if_false,
        Wire.readWord, if_true, Wire.readVarint_of_cut value short]

end EntryField

namespace LogEntry

/-- The bytes of fields up to a cut are the bytes of some of the fields, or do not read. -/
theorem decodeInto_of_cut (e : LogEntry) {source : EntryField → List UInt32}
    (writable : ∀ f : EntryField, f.Writable (source f)) {fields : List EntryField} {front back : Bytes}
    (cut : (fields.flatMap fun f => f.write (source f)) = front ++ back) :
    (∃ j ≤ fields.length, front = (fields.take j).flatMap fun f => f.write (source f)) ∨
      ∃ cause, e.decodeInto front = .error cause := by
  induction fields generalizing e front with
  | nil => exact .inl ⟨0, Nat.le_refl _, (List.append_eq_nil_iff.1 cut.symm).1⟩
  | cons f fields ih =>
      rw [List.flatMap_cons] at cut
      rcases cut_append cut with ⟨middle, inside, field⟩ | ⟨middle, rfl, rest⟩
      · by_cases begun : front = []
        · exact .inl ⟨0, Nat.zero_le _, begun⟩
        · obtain ⟨cause, failed⟩ := EntryField.readField_of_cut e (writable f) field begun inside
          exact .inr ⟨cause, by simp only [decodeInto_eq e begun, failed]⟩
      · rw [decodeInto_write e (writable f)]
        rcases ih (e.absorb f (source f)) rest with ⟨j, within, whole⟩ | failed
        · refine .inl ⟨j + 1, Nat.succ_le_succ within, ?_⟩
          rw [List.take_succ_cons, List.flatMap_cons, whole]
        · exact .inr failed

/-! ## Some of the fields -/

/-- The fields that are present, in message order. -/
def present (e : LogEntry) : List EntryField :=
  e.readings.map (·.1)

/-- The bytes of fields, one after another. -/
def written (e : LogEntry) (fields : List EntryField) : Bytes :=
  fields.flatMap fun f => f.write (e.words f)

/-- The entry with no other fields than these. -/
def restrict (e : LogEntry) (kept : List EntryField) : LogEntry where
  timestamp := if .timestamp ∈ kept then e.timestamp else none
  pressure := if .pressure ∈ kept then e.pressure else none
  rh := if .rh ∈ kept then e.rh else none
  temperature := if .temperature ∈ kept then e.temperature else none
  compass := if .compass ∈ kept then e.compass else []
  accelerometer := if .accelerometer ∈ kept then e.accelerometer else []
  gyro := if .gyro ∈ kept then e.gyro else []
  lux := if .lux ∈ kept then e.lux else none
  uvi := if .uvi ∈ kept then e.uvi else none
  batteryMv := if .batteryMv ∈ kept then e.batteryMv else none
  gpio0Mv := if .gpio0Mv ∈ kept then e.gpio0Mv else none
  gpio1Mv := if .gpio1Mv ∈ kept then e.gpio1Mv else none
  intGpio0 := if .intGpio0 ∈ kept then e.intGpio0 else none
  intGpio1 := if .intGpio1 ∈ kept then e.intGpio1 else none
  intAcc := if .intAcc ∈ kept then e.intAcc else none

theorem words_restrict (e : LogEntry) (kept : List EntryField) (f : EntryField) :
    (e.restrict kept).words f = if f ∈ kept then e.words f else [] := by
  cases f <;> simp only [words, restrict] <;> split <;> rfl

/-- A field is present when it has words. -/
theorem present_eq_filter (e : LogEntry) : e.present = EntryField.all.filter fun f => !(e.words f).isEmpty := by
  rw [present, readings]
  induction EntryField.all with
  | nil => rfl
  | cons f fields ih =>
      by_cases absent : e.words f = []
      · have none := (readingOf_eq_none f _).2 absent
        rw [List.filterMap_cons_none (by rw [reading?, none]; rfl), ih, List.filter_cons_of_neg (by simp [absent])]
      · obtain ⟨reading, some⟩ := Option.ne_none_iff_exists'.1 (mt (readingOf_eq_none f _).1 absent)
        rw [List.filterMap_cons_some (by rw [reading?, some]; rfl), List.map_cons, ih,
          List.filter_cons_of_pos (by simp [absent])]

theorem encode_eq_written (e : LogEntry) : e.encode = e.written e.present := by
  rw [encode, written, present_eq_filter]
  induction EntryField.all with
  | nil => rfl
  | cons f fields ih =>
      rw [List.flatMap_cons, ih]
      by_cases absent : e.words f = []
      · rw [List.filter_cons_of_neg (by simp [absent]), absent]
        rfl
      · rw [List.filter_cons_of_pos (by simp [absent]), List.flatMap_cons]

/-- The first of the present fields make the entry that has no others. -/
theorem foldl_absorb_take (e : LogEntry) (j : Nat) :
    (e.present.take j).foldl (fun e' f => e'.absorb f (e.words f)) empty = e.restrict (e.present.take j) := by
  have distinct : e.present.Nodup := by
    rw [present_eq_filter]
    exact EntryField.nodup_all.filter _
  have kept : e.present.take j
      = EntryField.all.filter fun f => (e.present.take j).elem f && !(e.words f).isEmpty := by
    rw [← List.filter_filter, ← present_eq_filter]
    exact distinct.take_eq_filter_mem
  have step (e' : LogEntry) (f : EntryField) :
      (if (e.present.take j).elem f && !(e.words f).isEmpty then e'.absorb f (e.words f) else e')
        = e'.absorb f ((e.restrict (e.present.take j)).words f) := by
    rw [words_restrict]
    by_cases absent : e.words f = []
    · simp [absent, absorb_nil]
    · by_cases member : f ∈ e.present.take j <;> simp [member, absent, absorb_nil]
  rw [kept, List.foldl_filter, ← kept]
  simp only [step]
  exact foldl_absorb_all _

/-- An entry whose vectors fit a machine with 64-bit addresses, at four bytes a value. -/
structure Storable (e : LogEntry) : Prop where
  compass : e.compass.length < 2 ^ 61
  accelerometer : e.accelerometer.length < 2 ^ 61
  gyro : e.gyro.length < 2 ^ 61

theorem Storable.writable {e : LogEntry} (storable : e.Storable) (f : EntryField) : f.Writable (e.words f) := by
  have single {α : Type} (o : Option α) : o.toList.length ≤ 1 := by cases o <;> simp
  have run {vs : List Int32} (few : vs.length < 2 ^ 61) : (Wire.writeWords (vs.map zigzag)).length < 2 ^ 64 := by
    have size := Wire.length_writeWords_le (vs.map zigzag)
    rw [List.length_map] at size
    omega
  cases f with
  | compass => exact run storable.compass
  | accelerometer => exact run storable.accelerometer
  | gyro => exact run storable.gyro
  | temperature => exact Nat.le_trans (Nat.le_of_eq (List.length_map _)) (single _)
  | timestamp | pressure | rh | lux | uvi | batteryMv | gpio0Mv | gpio1Mv | intGpio0 | intGpio1 | intAcc =>
      exact single _

/-- An entry reads back from its bytes. Cut behind the first `j` present fields they are the entry with these
    fields alone; cut anywhere else they are malformed. -/
theorem decode_take {e : LogEntry} (storable : e.Storable) :
    decode e.encode = .ok e ∧ ∀ n ≤ e.encode.length,
      (∃ j ≤ e.present.length, n = (e.written (e.present.take j)).length ∧
        decode (e.encode.take n) = .ok (e.restrict (e.present.take j))) ∨
      ((∀ j ≤ e.present.length, n ≠ (e.written (e.present.take j)).length) ∧
        ∃ cause, decode (e.encode.take n) = .error cause ∧
          ∀ registry : Registry, registry.codec.decode (e.encode.take n) = .error (.malformed cause)) := by
  refine ⟨decode_encode storable.writable, ?_⟩
  intro n within
  by_cases boundary : ∃ j ≤ e.present.length, n = (e.written (e.present.take j)).length
  · obtain ⟨j, bound, length⟩ := boundary
    have front : e.encode.take n = e.written (e.present.take j) := by
      have parts : e.encode = e.written (e.present.take j) ++ e.written (e.present.drop j) := by
        rw [encode_eq_written, written, written, written, ← List.flatMap_append, List.take_append_drop]
      rw [parts, length, List.take_left]
    refine .inl ⟨j, bound, length, ?_⟩
    rw [front, decode, written, decodeInto_flatMap empty e.words storable.writable, foldl_absorb_take]
  · refine .inr ⟨fun j bound length => boundary ⟨j, bound, length⟩, ?_⟩
    have cut : e.written e.present = e.encode.take n ++ e.encode.drop n := by
      rw [List.take_append_drop, encode_eq_written]
    rcases decodeInto_of_cut empty storable.writable cut with ⟨j, bound, front⟩ | ⟨cause, failed⟩
    · have length : n = (e.written (e.present.take j)).length := by
        rw [written, ← front, List.length_take, Nat.min_eq_left within]
      exact (boundary ⟨j, bound, length⟩).elim
    · exact ⟨cause, failed, fun registry => by simp only [Registry.codec, decode, failed]⟩

/-- The six bytes of a compass entry, cut behind the timestamp and inside the compass. -/
theorem decode_take_compass :
    let e : LogEntry := { timestamp := some 7, compass := [1, -2] }
    e.encode = [0x08, 0x07, 0x2a, 0x02, 0x02, 0x03] ∧ decode (e.encode.take 2) = .ok (.endOfLog 7) ∧
      ∃ cause, decode (e.encode.take 5) = .error cause := by
  intro e
  have length : e.encode.length = 6 := by decide +kernel
  have behind : ∀ j ≤ e.present.length, 2 = (e.written (e.present.take j)).length →
      e.restrict (e.present.take j) = .endOfLog 7 := by decide +kernel
  have inside : ∀ j ≤ e.present.length, 5 ≠ (e.written (e.present.take j)).length := by decide +kernel
  have cuts := (decode_take (e := e) ⟨by decide, by decide, by decide⟩).2
  refine ⟨by decide +kernel, ?_, ?_⟩
  · rcases cuts 2 (by omega) with ⟨j, bound, two, read⟩ | ⟨none, -⟩
    · rw [read, behind j bound two]
    · exact absurd (by decide +kernel) (none 1 (by decide +kernel))
  · rcases cuts 5 (by omega) with ⟨j, bound, five, -⟩ | ⟨-, cause, failed, -⟩
    · exact absurd five (inside j bound)
    · exact ⟨cause, failed⟩

end LogEntry

end SensorLog
