import SensorLog.Proofs.Record.Carried

/-!
# Entries one behind the other

The bytes of two entries, one behind the other, are the bytes of one entry: its single values are those of the
second where it has them, and its vectors are those of the first followed by those of the second (`decode_append`).
What a field takes does not depend on what stands behind it (`readField_taken`), and what it does to an entry does not
depend on what was read before it (`decodeInto_merge`). Fields that nobody knows take their bytes and nothing
else, as long as their groups are not nested too deep (`decode_unknown_iff`).
-/

namespace SensorLog.LogEntry

variable {e e' x y : LogEntry} {input rest : Bytes}

/-- The entry with the single values of the second where it has them, and the vectors of both. -/
def merge (first second : LogEntry) : LogEntry where
  timestamp := second.timestamp.or first.timestamp
  pressure := second.pressure.or first.pressure
  rh := second.rh.or first.rh
  temperature := second.temperature.or first.temperature
  compass := first.compass ++ second.compass
  accelerometer := first.accelerometer ++ second.accelerometer
  gyro := first.gyro ++ second.gyro
  lux := second.lux.or first.lux
  uvi := second.uvi.or first.uvi
  batteryMv := second.batteryMv.or first.batteryMv
  gpio0Mv := second.gpio0Mv.or first.gpio0Mv
  gpio1Mv := second.gpio1Mv.or first.gpio1Mv
  intGpio0 := second.intGpio0.or first.intGpio0
  intGpio1 := second.intGpio1.or first.intGpio1
  intAcc := second.intAcc.or first.intAcc

@[simp] theorem merge_empty (x : LogEntry) : x.merge empty = x := by
  simp [merge, empty]

/-- Words go to the second entry. -/
theorem merge_absorb (x e : LogEntry) (f : EntryField) (ws : List UInt32) :
    (x.merge e).absorb f ws = x.merge (e.absorb f ws) := by
  cases f <;> simp [merge, absorb, Option.or_assoc]

/-! ## What was read before does not matter -/

theorem readField_merge (x e : LogEntry) (input : Bytes) :
    (x.merge e).readField input = match e.readField input with
      | .error cause => .error cause
      | .ok (e', rest) => .ok (x.merge e', rest) := by
  unfold readField
  cases Wire.readKey input with
  | error cause => rfl
  | ok found =>
      obtain ⟨key, rest⟩ := found
      dsimp only
      cases EntryField.ofTag? key.tag with
      | none => dsimp only; cases Wire.skip key rest <;> rfl
      | some f =>
          dsimp only
          cases f.read key.wire rest with
          | error cause => rfl
          | ok words => simp only [merge_absorb]

theorem decodeInto_nil (e : LogEntry) : e.decodeInto [] = .ok e := by
  rw [decodeInto]
  rfl

/-- Fields are read into the second entry as into any other. -/
theorem decodeInto_merge (x e : LogEntry) (input : Bytes) :
    (x.merge e).decodeInto input = (e.decodeInto input).map x.merge := by
  fun_induction e.decodeInto input with
  | case1 e input none =>
      rw [List.isEmpty_iff.1 none, decodeInto_nil]
      rfl
  | case2 e input some cause read =>
      rw [decodeInto_eq _ (mt List.isEmpty_iff.2 some), readField_merge, read]
      rfl
  | case3 e input some e' rest read _ ih =>
      rw [decodeInto_eq _ (mt List.isEmpty_iff.2 some), readField_merge, read]
      exact ih

/-! ## What stands behind does not matter -/

theorem read_taken {f : EntryField} {wire : WireType} {ws : List UInt32}
    (read : f.read wire input = .ok (ws, rest)) :
    ∃ taken, input = taken ++ rest ∧ Wire.Takes (f.read wire) taken ws := by
  unfold EntryField.read at read
  split at read
  · rename_i vector
    obtain ⟨taken, whole, takes⟩ := Wire.readWords_taken read
    exact ⟨taken, whole, fun behind => by rw [EntryField.read, if_pos vector, takes behind]⟩
  · rename_i single
    split at read
    · cases read
    · rename_i word
      cases read
      obtain ⟨taken, whole, takes⟩ := Wire.readWord_taken word
      exact ⟨taken, whole, fun behind => by simp only [EntryField.read, if_neg single, takes behind]⟩

/-- A field takes its bytes and what they do to the entry is the same whatever stands behind them. -/
theorem readField_taken (read : e.readField input = .ok (e', rest)) :
    ∃ taken, input = taken ++ rest ∧ Wire.Takes e.readField taken e' := by
  unfold readField at read
  split at read
  · cases read
  · rename_i key front found
    obtain ⟨first, rfl, opens⟩ := Wire.readKey_taken found
    split at read
    · rename_i f known
      split at read
      · cases read
      · rename_i words
        cases read
        obtain ⟨taken, rfl, takes⟩ := read_taken words
        refine ⟨first ++ taken, (List.append_assoc _ _ _).symm, fun behind => ?_⟩
        simp only [readField, List.append_assoc, opens (taken ++ behind), known, takes behind]
    · rename_i unknown
      split at read
      · cases read
      · rename_i skipped
        cases read
        obtain ⟨taken, rfl, passes⟩ := Wire.skip_taken skipped
        refine ⟨first ++ taken, (List.append_assoc _ _ _).symm, fun behind => ?_⟩
        simp only [readField, List.append_assoc, opens (taken ++ behind), unknown, passes behind]

theorem readField_append (read : e.readField input = .ok (e', rest)) (behind : Bytes) :
    e.readField (input ++ behind) = .ok (e', rest ++ behind) := by
  obtain ⟨taken, rfl, takes⟩ := readField_taken read
  rw [List.append_assoc, takes]

/-- Bytes that were read whole are read first. -/
theorem decodeInto_append (decoded : e.decodeInto input = .ok x) (behind : Bytes) :
    e.decodeInto (input ++ behind) = x.decodeInto behind := by
  fun_induction e.decodeInto input with
  | case1 e input none =>
      cases decoded
      rw [List.isEmpty_iff.1 none, List.nil_append]
  | case2 => cases decoded
  | case3 e input some e' rest read _ ih =>
      have filled : input ++ behind ≠ [] := List.append_ne_nil_of_left_ne_nil (mt List.isEmpty_iff.2 some) behind
      rw [decodeInto_eq _ filled, readField_append read]
      exact ih decoded

/-- An entry with bytes behind it: what is behind is read as if it stood alone. -/
theorem decode_append_eq (first : decode input = .ok x) (behind : Bytes) :
    decode (input ++ behind) = (decode behind).map x.merge := by
  have fresh := decodeInto_merge x empty behind
  rw [merge_empty] at fresh
  rw [decode, decodeInto_append first, fresh, decode]

/-! ## Between two fields -/

/-- Fields that are read are read whole, whatever stands behind them. -/
theorem decodeInto_fields {occurrences : List Wire.Occurrence} (message : Wire.Message occurrences input)
    (decoded : e.decodeInto (input ++ rest) = .ok x) :
    ∃ e', e.decodeInto input = .ok e' ∧ e'.decodeInto rest = .ok x := by
  -- A field that was read whole is read in the same way in front of the fields behind it alone.
  have step {field bytes : Bytes} {e e₁ e' : LogEntry} (some : field ≠ [])
      (read : e.readField (field ++ (bytes ++ rest)) = .ok (e₁, bytes ++ rest))
      (later : e₁.decodeInto bytes = .ok e') : e.decodeInto (field ++ bytes) = .ok e' := by
    obtain ⟨taken, whole, takes⟩ := readField_taken read
    cases List.append_cancel_right whole
    rw [decodeInto_eq _ (List.append_ne_nil_of_left_ne_nil some bytes), takes]
    exact later
  induction message generalizing e with
  | nil => exact ⟨e, decodeInto_nil e, decoded⟩
  | @plain key content opening value bytes later opens valued follows ih =>
      have some : opening ++ value ≠ [] := List.append_ne_nil_of_left_ne_nil opens.ne_nil value
      rw [← List.append_assoc, List.append_assoc] at decoded
      obtain ⟨e₁, back, read, onward⟩ := decodeInto_of_ok (List.append_ne_nil_of_left_ne_nil some _) decoded
      obtain ⟨rfl, -⟩ := readField_plain opens valued (by rwa [List.append_assoc] at read)
      obtain ⟨e', front, behind⟩ := ih onward
      exact ⟨e', by rw [← List.append_assoc, step some read front], behind⟩
  | @group tag content opening closing bytes inner later opens inside closes follows _ ih =>
      have some : opening ++ (content ++ closing) ≠ [] :=
        List.append_ne_nil_of_left_ne_nil opens.ne_nil (content ++ closing)
      have parts (bytes : Bytes) :
          opening ++ (content ++ (closing ++ bytes)) = opening ++ (content ++ closing) ++ bytes := by
        simp only [List.append_assoc]
      rw [parts, List.append_assoc _ bytes] at decoded
      obtain ⟨e₁, back, read, onward⟩ := decodeInto_of_ok (List.append_ne_nil_of_left_ne_nil some _) decoded
      obtain ⟨rfl, -⟩ := readField_group opens inside closes (by rwa [← parts] at read)
      obtain ⟨e', front, behind⟩ := ih onward
      exact ⟨e', by rw [parts, step some read front], behind⟩

/-! ## Fields that nobody knows -/

/-- No field has any of these tags. -/
def Unknown (occurrences : List Wire.Occurrence) : Prop :=
  ∀ o ∈ occurrences, EntryField.ofTag? o.key.tag = none

theorem readField_unknown {key : Wire.Key} {opening : Bytes} (unknown : EntryField.ofTag? key.tag = none)
    (opens : key.Spells opening) (e : LogEntry) (input : Bytes) :
    e.readField (opening ++ input) = match Wire.skip key input with
      | .error cause => .error ⟨none, cause⟩
      | .ok rest => .ok (e, rest) := by
  cases skipped : Wire.skip key input with
  | error cause => simp only [readField, Wire.readKey_of_spells opens, unknown, skipped]
  | ok rest => simp only [readField, Wire.readKey_of_spells opens, unknown, skipped]

/-- Unknown fields leave the entry as it is. -/
theorem decodeInto_unknown {occurrences : List Wire.Occurrence}
    (nested : Wire.Nested Wire.maxDepth occurrences input) (unknown : Unknown occurrences) (e : LogEntry)
    (rest : Bytes) : e.decodeInto (input ++ rest) = e.decodeInto rest := by
  generalize levels : Wire.maxDepth = depth at nested
  induction nested with
  | nil => rfl
  | plain opens valued follows ih =>
      obtain ⟨this, others⟩ := List.forall_mem_cons.1 unknown
      rw [List.append_assoc, List.append_assoc, decodeInto_eq _ (List.append_ne_nil_of_left_ne_nil opens.ne_nil _),
        readField_unknown this opens, Wire.skip, if_neg valued.ne_startGroup, Wire.skipPlain_value valued]
      exact ih others levels
  | group opens inside closes follows _ ih =>
      obtain ⟨this, others⟩ := List.forall_mem_cons.1 unknown
      rw [List.append_assoc, List.append_assoc, List.append_assoc,
        decodeInto_eq _ (List.append_ne_nil_of_left_ne_nil opens.ne_nil _), readField_unknown this opens, Wire.skip,
        if_pos rfl, Wire.skipGroups_nested inside (by rw [levels, List.length_singleton, Nat.add_comm]),
        Wire.skipGroups_of_key (Wire.readKey_of_spells closes _), if_pos rfl, if_pos rfl, Wire.skipGroups]
      exact ih others levels

/-- A message that decodes has no groups nested too deep. -/
theorem nested_of_decodeInto {occurrences : List Wire.Occurrence} (message : Wire.Message occurrences input)
    (decoded : e.decodeInto input = .ok x) : Wire.Nested Wire.maxDepth occurrences input := by
  have levels : Wire.maxDepth = 99 + 1 := rfl
  rw [levels]
  induction message generalizing e with
  | nil => exact .nil
  | plain opens valued follows ih =>
      obtain ⟨e₁, back, read, onward⟩ :=
        decodeInto_of_ok (List.append_ne_nil_of_left_ne_nil opens.ne_nil _) decoded
      obtain ⟨rfl, -⟩ := readField_plain opens valued read
      exact .plain opens valued (ih onward)
  | group opens inside closes follows _ ih =>
      obtain ⟨e₁, back, read, onward⟩ :=
        decodeInto_of_ok (List.append_ne_nil_of_left_ne_nil opens.ne_nil _) decoded
      obtain ⟨rfl, -⟩ := readField_group opens inside closes read
      have later := ih onward
      rcases readField_cases opens read with ⟨-, skipped, -⟩ | ⟨f, ws, -, words, -⟩
      · rw [Wire.skip, if_pos rfl] at skipped
        exact .group opens (Wire.nested_of_skipGroups inside skipped) closes later
      · rw [EntryField.read_startGroup] at words
        cases words

/-- Unknown fields decode to the entry without fields, unless their groups are nested too deep. -/
theorem decode_unknown_iff {occurrences : List Wire.Occurrence} (message : Wire.Message occurrences input)
    (unknown : Unknown occurrences) : decode input = .ok empty ↔ Wire.Nested Wire.maxDepth occurrences input := by
  constructor
  · exact nested_of_decodeInto message
  · intro nested
    have passed := decodeInto_unknown nested unknown empty []
    rwa [List.append_nil, decodeInto_nil] at passed

/-- The bytes of two entries, one behind the other, are those of the merged entry. Unknown fields may stand between
    any two fields: the entry stays the same. -/
theorem decode_append :
    (∀ {a b : Bytes} {x y : LogEntry}, decode a = .ok x → decode b = .ok y → decode (a ++ b) = .ok (x.merge y)) ∧
      ∀ {before between after : Bytes} {fields inserted : List Wire.Occurrence} {z : LogEntry},
        Wire.Message fields before → decode (before ++ after) = .ok z →
        Wire.Nested Wire.maxDepth inserted between → Unknown inserted →
        decode (before ++ (between ++ after)) = .ok z := by
  constructor
  · intro a b x y first second
    rw [decode_append_eq first, second]
    rfl
  · intro before between after fields inserted z message decoded nested unknown
    obtain ⟨e, front, back⟩ := decodeInto_fields message decoded
    rw [decode, decodeInto_append front, decodeInto_unknown nested unknown]
    exact back

/-- Two compass entries, of which the first spells its timestamp longer than needed. A group with a tag that no field
    has stands between them. -/
theorem decode_append_compass :
    let front : Bytes := [0x08, 0x87, 0x00, 0x28, 0x02]
    let back : Bytes := [0x08, 0x09, 0x2a, 0x01, 0x03]
    let z : LogEntry := { timestamp := some 9, compass := [1, -2] }
    decode (front ++ back) = .ok z ∧
      decode (front ++ ([0x83, 0x01, 0x10, 0x05, 0x84, 0x01] ++ back)) = .ok z := by
  intro front back z
  have first : decode front = .ok { timestamp := some 7, compass := [1] } := by decide +kernel
  have second : decode back = .ok { timestamp := some 9, compass := [-2] } := by decide +kernel
  have stamp := @Wire.Key.Spells.of_byte ⟨1, .varint⟩ 0x08 (by decide) (by decide) (by decide)
  have compass := @Wire.Key.Spells.of_byte ⟨5, .varint⟩ 0x28 (by decide) (by decide) (by decide)
  have pressure := @Wire.Key.Spells.of_byte ⟨2, .varint⟩ 0x10 (by decide) (by decide) (by decide)
  have long (low : UInt8) (high : 128 ≤ low.toNat) (b : UInt8) (last : b.toNat < 2) :
      Wire.Spells (low.toNat - 128 + 128 * b.toNat) [low, b] := by
    have bound := low.toNat_lt
    exact ⟨.more low high (.last b (by omega)), by simp, by omega⟩
  have fields : Wire.Message [⟨⟨1, .varint⟩, [0x87, 0x00]⟩, ⟨⟨5, .varint⟩, [0x02]⟩] front :=
    .plain stamp (.varint (long 0x87 (by decide) 0x00 (by decide)))
      (.plain compass (.varint (.of_byte (by decide))) .nil)
  have inside : Wire.Nested (98 + 1) [⟨⟨2, .varint⟩, [0x05]⟩] [0x10, 0x05] :=
    .plain pressure (.varint (.of_byte (by decide))) .nil
  have opens : Wire.Key.Spells ⟨16, .startGroup⟩ [0x83, 0x01] :=
    ⟨by decide, by decide, long 0x83 (by decide) 0x01 (by decide)⟩
  have closes : Wire.Key.Spells ⟨16, .endGroup⟩ [0x84, 0x01] :=
    ⟨by decide, by decide, long 0x84 (by decide) 0x01 (by decide)⟩
  have inserted : Wire.Nested Wire.maxDepth [⟨⟨16, .startGroup⟩, [0x10, 0x05]⟩]
      [0x83, 0x01, 0x10, 0x05, 0x84, 0x01] :=
    .group opens inside closes .nil
  have merged : decode (front ++ back) = .ok z := decode_append.1 first second
  exact ⟨merged, decode_append.2 fields merged inserted (List.forall_mem_singleton.2 rfl)⟩

end SensorLog.LogEntry
