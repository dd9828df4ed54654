import SensorLog.Bytes.Hex
import SensorLog.Wire.Error

/-!
# Variable-length numbers

A number is written in groups of seven bits, lowest first; every byte but the last has its high bit
set. Reading takes at most ten bytes and refuses what does not fit 64 bits. A longer form than
needed is accepted.
-/

namespace SensorLog.Wire

/-- The shortest form of a number. -/
def writeVarint (n : Nat) : Bytes :=
  if n < 128 then [n.toUInt8] else (n % 128 + 128).toUInt8 :: writeVarint (n / 128)
termination_by n
decreasing_by omega

/-- Reads at most `room` bytes. The last of ten bytes holds only one bit. -/
def readGroups : Nat → Bytes → Except WireError (Nat × Bytes)
  | 0, _ => .error .invalidVarint
  | _ + 1, [] => .error .invalidVarint
  | room + 1, b :: rest =>
    if b.toNat < 128 then
      if room = 0 ∧ 2 ≤ b.toNat then .error .invalidVarint else .ok (b.toNat, rest)
    else
      match readGroups room rest with
      | .error e => .error e
      | .ok (n, rest') => .ok (b.toNat - 128 + 128 * n, rest')

/-- The number at the start of the input, and the input after it. -/
def readVarint (input : Bytes) : Except WireError (Nat × Bytes) :=
  readGroups 10 input

theorem readGroups_length {room : Nat} {input rest : Bytes} {n : Nat}
    (h : readGroups room input = .ok (n, rest)) : rest.length < input.length := by
  induction room generalizing input n with
  | zero => simp [readGroups] at h
  | succ room ih =>
    cases input with
    | nil => simp [readGroups] at h
    | cons b tail =>
      simp only [readGroups] at h
      split at h
      · split at h
        · simp at h
        · simp only [Except.ok.injEq, Prod.mk.injEq] at h
          simp [← h.2]
      · split at h
        · simp at h
        · rename_i heq
          simp only [Except.ok.injEq, Prod.mk.injEq] at h
          obtain ⟨-, rfl⟩ := h
          have := ih heq
          simp only [List.length_cons]
          omega

/-- Reading takes at least one byte. -/
theorem readVarint_length {input rest : Bytes} {n : Nat}
    (h : readVarint input = .ok (n, rest)) : rest.length < input.length :=
  readGroups_length h

theorem writeVarint_ne_nil (n : Nat) : writeVarint n ≠ [] := by
  rw [writeVarint]
  split <;> simp

end SensorLog.Wire
