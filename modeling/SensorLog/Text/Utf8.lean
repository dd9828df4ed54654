import SensorLog.Bytes.Hex

/-!
# Where a byte string stops being UTF-8

`Utf8.fault?` finds the first sequence that is not the encoding of a character. Its index counts
bytes; its length says how many bytes are known to be wrong, or is missing when the string ends
inside a sequence that could still have become a character.
-/

namespace SensorLog

/-- The bytes of a text. -/
def Bytes.ofText (s : String) : Bytes :=
  s.toUTF8.toList

/-- The text that the bytes encode. -/
def Bytes.text? (bs : Bytes) : Option String :=
  String.fromUTF8? bs.toByteArray

namespace Utf8

/-- The first sequence that is no character. -/
structure Fault where
  index : Nat
  length : Option Nat
deriving DecidableEq, Repr

/-- The wording of a fault. -/
def Fault.message (f : Fault) : String :=
  match f.length with
  | some n => s!"invalid utf-8 sequence of {n} bytes from index {f.index}"
  | none => s!"incomplete utf-8 byte sequence from index {f.index}"

/-- The ranges that the bytes after a leading byte must lie in: none for an ASCII byte, and no list
    at all for a byte that leads no sequence. -/
def following? (b : UInt8) : Option (List (UInt8 × UInt8)) :=
  if b < 0x80 then some []
  else if 0xC2 ≤ b ∧ b ≤ 0xDF then some [(0x80, 0xBF)]
  else if b = 0xE0 then some [(0xA0, 0xBF), (0x80, 0xBF)]
  else if b = 0xED then some [(0x80, 0x9F), (0x80, 0xBF)]
  else if 0xE1 ≤ b ∧ b ≤ 0xEF then some [(0x80, 0xBF), (0x80, 0xBF)]
  else if b = 0xF0 then some [(0x90, 0xBF), (0x80, 0xBF), (0x80, 0xBF)]
  else if 0xF1 ≤ b ∧ b ≤ 0xF3 then some [(0x80, 0xBF), (0x80, 0xBF), (0x80, 0xBF)]
  else if b = 0xF4 then some [(0x80, 0x8F), (0x80, 0xBF), (0x80, 0xBF)]
  else none

/-- Matches the ranges against the next bytes. The result is the rest, or the number of good bytes
    with whether a further byte is there at all. -/
def matchRanges : Nat → List (UInt8 × UInt8) → Bytes → Except (Nat × Bool) Bytes
  | _, [], rest => .ok rest
  | good, _ :: _, [] => .error (good, false)
  | good, (low, high) :: ranges, b :: rest =>
    if low ≤ b ∧ b ≤ high then matchRanges (good + 1) ranges rest else .error (good, true)

theorem matchRanges_length {good : Nat} {ranges : List (UInt8 × UInt8)} {bs rest : Bytes}
    (h : matchRanges good ranges bs = .ok rest) : rest.length ≤ bs.length := by
  induction ranges generalizing good bs with
  | nil => simp only [matchRanges, Except.ok.injEq] at h; subst h; exact Nat.le_refl _
  | cons r ranges ih =>
    cases bs with
    | nil => simp [matchRanges] at h
    | cons b bs =>
      obtain ⟨low, high⟩ := r
      simp only [matchRanges] at h
      split at h
      · have := ih h
        simp only [List.length_cons]
        omega
      · simp at h

/-- The first fault at or after the byte with the given index. -/
def faultFrom? (index : Nat) (bs : Bytes) : Option Fault :=
  match bs with
  | [] => none
  | b :: rest =>
    match following? b with
    | none => some ⟨index, some 1⟩
    | some ranges =>
      match h : matchRanges 1 ranges rest with
      | .error (good, present) => some ⟨index, if present then some good else none⟩
      | .ok rest' =>
        have := matchRanges_length h
        faultFrom? (index + 1 + (rest.length - rest'.length)) rest'
termination_by bs.length
decreasing_by simp only [List.length_cons]; omega

/-- The first fault of a byte string. -/
def fault? (bs : Bytes) : Option Fault :=
  faultFrom? 0 bs

end Utf8

end SensorLog
