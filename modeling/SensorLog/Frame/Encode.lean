import SensorLog.Frame.Error

/-!
# Frames as a device sends them

A frame is one length byte and as many bytes of payload. The payload has at least one byte and at
most 255.
-/

namespace SensorLog

/-- The largest payload that one length byte can announce. -/
def maxPayload : Nat := 255

/-- The frame of a payload. -/
def encodeFrame (payload : Bytes) : Except FrameError Bytes :=
  if payload.isEmpty then .error .zeroLengthFrame
  else if maxPayload < payload.length then .error (.payloadTooLarge payload.length maxPayload)
  else .ok (UInt8.ofNat payload.length :: payload)

theorem encodeFrame_eq_ok_iff {payload frame : Bytes} :
    encodeFrame payload = .ok frame ↔
      payload ≠ [] ∧ payload.length ≤ 255 ∧ frame = UInt8.ofNat payload.length :: payload := by
  unfold encodeFrame maxPayload
  cases payload with
  | nil => simp
  | cons b rest =>
    simp only [List.isEmpty_cons, Bool.false_eq_true, if_false]
    split
    · rename_i h
      constructor
      · intro h'
        cases h'
      · rintro ⟨-, hle, -⟩
        omega
    · rename_i h
      simp only [Except.ok.injEq, ne_eq, reduceCtorEq, not_false_eq_true, true_and]
      constructor
      · rintro rfl
        exact ⟨by omega, rfl⟩
      · rintro ⟨-, rfl⟩
        rfl

end SensorLog
