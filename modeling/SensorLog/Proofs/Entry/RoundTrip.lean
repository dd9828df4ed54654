import Mathlib
import SensorLog.Entry.Wire
import SensorLog.Proofs.Wire.RoundTrip

/-!
# Entries read back

What `LogEntry.encode` writes `LogEntry.decode` reads (`decode_encode`): each field that was written
is absorbed as it was, and absorbing all fields of an entry gives the entry. A payload of a logger,
whose vectors have three axes, takes at most 123 bytes (`length_encode_le`).
-/

namespace SensorLog

namespace EntryField

variable {f : EntryField} {ws : List UInt32}

/-- The words that a field can be written with and read back: a run whose length fits a number for a
    vector, at most one word otherwise. -/
def Writable (f : EntryField) (ws : List UInt32) : Prop :=
  if f.isVector then (Wire.writeWords ws).length < 2 ^ 64 else ws.length ≤ 1

theorem write_vector (vector : f.isVector = true) (some : ws ≠ []) :
    f.write ws = Wire.Key.write ⟨f.tag, .lengthDelimited⟩
      ++ (Wire.writeVarint (Wire.writeWords ws).length ++ Wire.writeWords ws) := by
  rw [write, if_neg (by rwa [List.isEmpty_iff])]
  simp only [vector, if_true, Wire.writeWords]

theorem write_single (single : f.isVector = false) (w : UInt32) :
    f.write [w] = Wire.Key.write ⟨f.tag, .varint⟩ ++ Wire.writeVarint w.toNat := by
  rw [write, if_neg (by simp)]
  simp only [single, Bool.false_eq_true, if_false, List.flatMap_cons, List.flatMap_nil, List.append_nil]

theorem write_ne_nil (some : ws ≠ []) : f.write ws ≠ [] := by
  rw [write, if_neg (by rwa [List.isEmpty_iff])]
  dsimp only
  split <;> simp [Wire.Key.write, Wire.writeVarint_ne_nil]

theorem readKey_tag (f : EntryField) (wire : WireType) (rest : Bytes) :
    Wire.readKey (Wire.Key.write ⟨f.tag, wire⟩ ++ rest) = .ok (⟨f.tag, wire⟩, rest) := by
  have small := f.tag_le
  exact Wire.readKey_write ⟨f.tag, wire⟩ f.tag_pos (by dsimp only; omega) rest

/-- A written field is taken in as it was. -/
theorem readField_write (e : LogEntry) (some : ws ≠ []) (writable : f.Writable ws) (rest : Bytes) :
    e.readField (f.write ws ++ rest) = .ok (e.absorb f ws, rest) := by
  cases vector : f.isVector with
  | true =>
      rw [Writable, if_pos vector] at writable
      rw [write_vector vector some, List.append_assoc, List.append_assoc]
      simp only [LogEntry.readField, readKey_tag, ofTag?_tag, read, vector, if_true,
        Wire.readWords_writeWords writable]
  | false =>
      rw [Writable, if_neg (by simp [vector])] at writable
      have inhabited : 0 < ws.length := List.length_pos_iff.2 some
      obtain ⟨w, rfl⟩ : ∃ w, ws = [w] := by
        apply List.length_eq_one_iff.1
        omega
      rw [write_single vector, List.append_assoc]
      simp only [LogEntry.readField, readKey_tag, ofTag?_tag, read, vector, Bool.false_eq_true, if_false,
        Wire.readWord_writeVarint]

/-- The most words that a logger has for a field: one per axis. -/
def axes (f : EntryField) : Nat :=
  if f.isVector then 3 else 1

/-- The largest size of a field with as many words: a byte for the key, one for the length of a run
    and five for each word. -/
def maxSize (f : EntryField) : Nat :=
  if f.isVector then 17 else 6

theorem writable_of_axes (few : ws.length ≤ f.axes) : f.Writable ws := by
  have size := Wire.length_writeWords_le ws
  rw [axes] at few
  rw [Writable]
  split
  · rename_i vector
    rw [if_pos vector] at few
    omega
  · rename_i single
    rwa [if_neg single] at few

theorem length_key (f : EntryField) (wire : WireType) : (Wire.Key.write ⟨f.tag, wire⟩).length = 1 := by
  have small := f.tag_le
  have code := wire.code_lt
  rw [Wire.Key.write, Wire.writeVarint, if_pos (by dsimp only; omega)]
  rfl

theorem length_write_le (few : ws.length ≤ f.axes) : (f.write ws).length ≤ f.maxSize := by
  by_cases none : ws = []
  · subst none
    exact Nat.zero_le _
  · have size := Wire.length_writeWords_le ws
    cases vector : f.isVector with
    | true =>
        rw [axes, if_pos vector] at few
        have length : (Wire.writeVarint (Wire.writeWords ws).length).length ≤ 0 + 1 :=
          Wire.length_writeVarint_le (by omega)
        rw [write_vector vector none, maxSize, if_pos vector]
        simp only [List.length_append, length_key]
        omega
    | false =>
        rw [axes, if_neg (by simp [vector])] at few
        obtain ⟨w, rfl⟩ : ∃ w, ws = [w] :=
          List.length_eq_one_iff.1 (Nat.le_antisymm few (List.length_pos_iff.2 none))
        have bound := w.toNat_lt
        have word : (Wire.writeVarint w.toNat).length ≤ 4 + 1 := Wire.length_writeVarint_le (by omega)
        rw [write_single vector, maxSize, if_neg (by simp [vector])]
        simp only [List.length_append, length_key]
        omega

end EntryField

namespace LogEntry

theorem absorb_nil (e : LogEntry) (f : EntryField) : e.absorb f [] = e := by
  cases f <;> simp [absorb]

/-- Decoding takes one field after another. -/
theorem decodeInto_eq (e : LogEntry) {input : Bytes} (some : input ≠ []) :
    e.decodeInto input = match e.readField input with
      | .error cause => .error cause
      | .ok (e', rest) => e'.decodeInto rest := by
  rw [decodeInto, if_neg (by rwa [List.isEmpty_iff])]
  split <;> rename_i read <;> simp only [read]

theorem decodeInto_write (e : LogEntry) {f : EntryField} {ws : List UInt32} (writable : f.Writable ws)
    (rest : Bytes) : e.decodeInto (f.write ws ++ rest) = (e.absorb f ws).decodeInto rest := by
  by_cases none : ws = []
  · subst none
    rw [absorb_nil]
    rfl
  · have some : f.write ws ++ rest ≠ [] := List.append_ne_nil_of_left_ne_nil (EntryField.write_ne_nil none) rest
    rw [decodeInto_eq e some, EntryField.readField_write e none writable]

/-- Fields that are written one after another are taken in one after another. -/
theorem decodeInto_flatMap (e : LogEntry) (source : EntryField → List UInt32)
    (writable : ∀ f : EntryField, f.Writable (source f)) (fields : List EntryField) :
    e.decodeInto (fields.flatMap fun f => f.write (source f))
      = .ok (fields.foldl (fun e f => e.absorb f (source f)) e) := by
  induction fields generalizing e with
  | nil =>
      rw [List.flatMap_nil, decodeInto]
      rfl
  | cons f fields ih => rw [List.flatMap_cons, decodeInto_write e (writable f), ih, List.foldl_cons]

/-- A field without words has no reading. -/
theorem readingOf_eq_none (f : EntryField) (ws : List UInt32) : readingOf f ws = none ↔ ws = [] := by
  rw [readingOf]
  split
  · cases ws <;> simp
  · simp

theorem unzigzag_comp_zigzag : unzigzag ∘ zigzag = id :=
  funext unzigzag_zigzag

/-- An entry is what its fields make of the empty one. -/
theorem foldl_absorb_all (e : LogEntry) :
    EntryField.all.foldl (fun e' f => e'.absorb f (e.words f)) empty = e := by
  have last {α : Type} (o : Option α) : o.toList.getLast? = o := by cases o <;> rfl
  have back (o : Option Int32) : (o.toList.map zigzag).getLast?.map unzigzag = o := by
    cases o with
    | none => rfl
    | some v => exact congrArg some (unzigzag_zigzag v)
  simp only [EntryField.all, List.foldl_cons, List.foldl_nil, absorb, words, empty, last, back, Option.or_none,
    List.nil_append, List.map_map, unzigzag_comp_zigzag, List.map_id]

/-- What is written reads back. -/
theorem decode_encode {e : LogEntry} (writable : ∀ f : EntryField, f.Writable (e.words f)) :
    decode e.encode = .ok e := by
  rw [decode, encode, decodeInto_flatMap empty e.words writable, foldl_absorb_all]

/-- An entry with at most one value for each axis. -/
structure FitsAxes (e : LogEntry) : Prop where
  compass : e.compass.length ≤ 3
  accelerometer : e.accelerometer.length ≤ 3
  gyro : e.gyro.length ≤ 3

theorem FitsAxes.endOfLog (stamp : UInt32) : (LogEntry.endOfLog stamp).FitsAxes :=
  ⟨Nat.zero_le _, Nat.zero_le _, Nat.zero_le _⟩

theorem FitsAxes.words {e : LogEntry} (fits : e.FitsAxes) (f : EntryField) :
    (e.words f).length ≤ f.axes := by
  have single {α : Type} (o : Option α) : o.toList.length ≤ 1 := by cases o <;> simp
  cases f with
  | compass => exact Nat.le_trans (Nat.le_of_eq (List.length_map _)) fits.compass
  | accelerometer => exact Nat.le_trans (Nat.le_of_eq (List.length_map _)) fits.accelerometer
  | gyro => exact Nat.le_trans (Nat.le_of_eq (List.length_map _)) fits.gyro
  | temperature => exact Nat.le_trans (Nat.le_of_eq (List.length_map _)) (single _)
  | timestamp | pressure | rh | lux | uvi | batteryMv | gpio0Mv | gpio1Mv | intGpio0 | intGpio1 | intAcc =>
      exact single _

theorem length_flatMap_le {e : LogEntry} (fits : e.FitsAxes) (fields : List EntryField) :
    (fields.flatMap fun f => f.write (e.words f)).length ≤ (fields.map EntryField.maxSize).sum := by
  induction fields with
  | nil => exact Nat.le_refl _
  | cons f fields ih =>
      have head := EntryField.length_write_le (fits.words f)
      simp only [List.flatMap_cons, List.length_append, List.map_cons, List.sum_cons]
      omega

/-- The worst case: twelve single values and three vectors, all with the longest numbers. -/
theorem length_encode_le {e : LogEntry} (fits : e.FitsAxes) : e.encode.length ≤ 123 :=
  length_flatMap_le fits EntryField.all

theorem encode_ne_nil {e : LogEntry} {f : EntryField} (present : e.words f ≠ []) : e.encode ≠ [] := by
  intro nothing
  exact EntryField.write_ne_nil present (List.flatMap_eq_nil_iff.1 nothing f f.mem_all)

end LogEntry

end SensorLog
