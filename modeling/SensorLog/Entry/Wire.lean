import SensorLog.Entry.Basic
import SensorLog.Wire.Value

/-!
# Log entries on the wire

`LogEntry.encode` writes the present fields in message order, a vector as one packed run.
`LogEntry.decode` reads fields in any order, passes over tags that are no field, and lets a later
single value replace an earlier one.
-/

namespace SensorLog

/-- Why a byte string is no log entry: the field whose value was being read, if it was one, and what
    was wrong. -/
structure EntryError where
  field : Option EntryField
  cause : WireError
deriving DecidableEq, Repr

/-- The wording of an entry error. -/
def EntryError.message (e : EntryError) : String :=
  let location := match e.field with
    | some f => s!"LogEntry.{f.name}: "
    | none => ""
  "failed to decode Protobuf message: " ++ location ++ e.cause.message

namespace EntryField

/-- The words of one occurrence of a field. -/
def read (f : EntryField) (wire : WireType) (input : Bytes) :
    Except WireError (List UInt32 × Bytes) :=
  if f.isVector then Wire.readWords wire input
  else match Wire.readWord wire input with
    | .error e => .error e
    | .ok (word, rest) => .ok ([word], rest)

/-- The written form of a field with the given words, key included. -/
def write (f : EntryField) (ws : List UInt32) : Bytes :=
  if ws.isEmpty then []
  else
    let body := ws.flatMap fun w => Wire.writeVarint w.toNat
    if f.isVector then
      Wire.Key.write ⟨f.tag, .lengthDelimited⟩ ++ (Wire.writeVarint body.length ++ body)
    else Wire.Key.write ⟨f.tag, .varint⟩ ++ body

theorem read_length {f : EntryField} {wire : WireType} {input rest : Bytes} {ws : List UInt32}
    (h : f.read wire input = .ok (ws, rest)) : rest.length < input.length := by
  unfold read at h
  split at h
  · exact Wire.readWords_length h
  · split at h
    · simp at h
    · rename_i hw
      simp only [Except.ok.injEq, Prod.mk.injEq] at h
      obtain ⟨-, rfl⟩ := h
      exact Wire.readWord_length hw

end EntryField

namespace LogEntry

/-- The bytes of an entry: its present fields in message order. -/
def encode (e : LogEntry) : Bytes :=
  EntryField.all.flatMap fun f => f.write (e.words f)

/-- The entry after the first field of the input, known or not, and the input after it. -/
def readField (e : LogEntry) (input : Bytes) : Except EntryError (LogEntry × Bytes) :=
  match Wire.readKey input with
  | .error c => .error ⟨none, c⟩
  | .ok (key, rest) =>
    match EntryField.ofTag? key.tag with
    | some f =>
      match f.read key.wire rest with
      | .error c => .error ⟨some f, c⟩
      | .ok (ws, rest') => .ok (e.absorb f ws, rest')
    | none =>
      match Wire.skip key rest with
      | .error c => .error ⟨none, c⟩
      | .ok rest' => .ok (e, rest')

theorem readField_length {e e' : LogEntry} {input rest : Bytes}
    (h : e.readField input = .ok (e', rest)) : rest.length < input.length := by
  unfold readField at h
  split at h
  · simp at h
  · rename_i hk
    have hlt := Wire.readKey_length hk
    split at h
    · split at h
      · simp at h
      · rename_i hr
        simp only [Except.ok.injEq, Prod.mk.injEq] at h
        obtain ⟨-, rfl⟩ := h
        exact Nat.lt_trans (EntryField.read_length hr) hlt
    · split at h
      · simp at h
      · rename_i hs
        simp only [Except.ok.injEq, Prod.mk.injEq] at h
        obtain ⟨-, rfl⟩ := h
        exact Nat.lt_of_le_of_lt (Wire.skip_length hs) hlt

/-- The entry after all fields of the input. -/
def decodeInto (e : LogEntry) (input : Bytes) : Except EntryError LogEntry :=
  if input.isEmpty then .ok e
  else
    match h : e.readField input with
    | .error err => .error err
    | .ok (e', rest) =>
      have := readField_length h
      e'.decodeInto rest
termination_by input.length

/-- The entry that the bytes hold. -/
def decode (input : Bytes) : Except EntryError LogEntry :=
  empty.decodeInto input

end LogEntry

end SensorLog
