import SensorLog.Wire.Varint

/-!
# Keys

A key is one number: the tag times eight plus the wire type. Its faults are tested in a fixed order:
the number itself, its size, its wire type, a tag of zero.
-/

namespace SensorLog.Wire

/-- What a key says about the value after it. -/
structure Key where
  tag : Nat
  wire : WireType
deriving DecidableEq, Repr

/-- The written form of a key. -/
def Key.write (k : Key) : Bytes :=
  writeVarint (8 * k.tag + k.wire.code)

/-- The key that a number stands for. -/
def Key.ofNat? (n : Nat) : Except WireError Key :=
  if UInt32.size ≤ n then .error (.invalidKey n)
  else match WireType.ofCode? (n % 8) with
    | none => .error (.invalidWireType (n % 8))
    | some wire => if n / 8 = 0 then .error .zeroTag else .ok ⟨n / 8, wire⟩

/-- The key at the start of the input, and the input after it. -/
def readKey (input : Bytes) : Except WireError (Key × Bytes) :=
  match readVarint input with
  | .error e => .error e
  | .ok (n, rest) =>
    match Key.ofNat? n with
    | .error e => .error e
    | .ok key => .ok (key, rest)

theorem readKey_length {input rest : Bytes} {key : Key} (h : readKey input = .ok (key, rest)) :
    rest.length < input.length := by
  unfold readKey at h
  split at h
  · simp at h
  · rename_i hv
    split at h
    · simp at h
    · simp only [Except.ok.injEq, Prod.mk.injEq] at h
      obtain ⟨-, rfl⟩ := h
      exact readVarint_length hv

end SensorLog.Wire
