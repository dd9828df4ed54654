import Mathlib
import SensorLog.Wire.Value

/-!
# Numbers, keys and words read back

Reading accepts longer forms than writing makes, so each theorem says only that a written form reads
back, whatever stands behind it. A number of `n` groups of seven bits takes at most `n` bytes.
-/

namespace SensorLog.Wire

theorem readGroups_writeVarint {room n : Nat} (h : n < 2 * 128 ^ room) (rest : Bytes) :
    readGroups (room + 1) (writeVarint n ++ rest) = .ok (n, rest) := by
  induction room generalizing n with
  | zero =>
    have hb : n.toUInt8.toNat = n := by simp; omega
    rw [writeVarint, if_pos (by omega)]
    simp only [List.cons_append, List.nil_append, readGroups, hb]
    rw [if_pos (by omega), if_neg (by omega)]
  | succ room ih =>
    rw [writeVarint]
    split
    · rename_i hn
      have hb : n.toUInt8.toNat = n := by simp; omega
      simp [readGroups, hb, hn]
    · rename_i hn
      have hb : (n % 128 + 128).toUInt8.toNat = n % 128 + 128 := by simp; omega
      have hq : n / 128 < 2 * 128 ^ room := by
        rw [Nat.pow_succ] at h
        omega
      rw [List.cons_append, readGroups, hb, if_neg (by omega), ih hq]
      simp only [Except.ok.injEq, Prod.mk.injEq, and_true]
      omega

/-- A number that fits 64 bits reads back from its written form, and nothing after it is touched. -/
theorem readVarint_writeVarint {n : Nat} (h : n < 2 ^ 64) (rest : Bytes) :
    readVarint (writeVarint n ++ rest) = .ok (n, rest) :=
  @readGroups_writeVarint 9 n (by omega) rest

theorem Key.ofNat?_write (k : Key) (h0 : 0 < k.tag) (h : k.tag < 2 ^ 29) :
    Key.ofNat? (8 * k.tag + k.wire.code) = .ok k := by
  have hw := k.wire.code_lt
  have hm : (8 * k.tag + k.wire.code) % 8 = k.wire.code := by omega
  have hd : (8 * k.tag + k.wire.code) / 8 = k.tag := by omega
  have hs : ¬ UInt32.size ≤ 8 * k.tag + k.wire.code := by
    unfold UInt32.size
    omega
  simp only [Key.ofNat?, hm, hd, WireType.ofCode?_code]
  rw [if_neg hs, if_neg (by omega)]

/-- A written key reads back. -/
theorem readKey_write (k : Key) (h0 : 0 < k.tag) (h : k.tag < 2 ^ 29) (rest : Bytes) :
    readKey (k.write ++ rest) = .ok (k, rest) := by
  have hw := k.wire.code_lt
  have hn : 8 * k.tag + k.wire.code < 2 ^ 64 := by omega
  simp only [readKey, Key.write, readVarint_writeVarint hn, Key.ofNat?_write k h0 h]

/-- The written form of words without a key. -/
def writeWords (ws : List UInt32) : Bytes :=
  ws.flatMap fun w => writeVarint w.toNat

theorem readVarint_word (w : UInt32) (rest : Bytes) :
    readVarint (writeVarint w.toNat ++ rest) = .ok (w.toNat, rest) := by
  have bound := w.toNat_lt
  exact readVarint_writeVarint (by omega) rest

theorem readWord_writeVarint (w : UInt32) (rest : Bytes) :
    readWord .varint (writeVarint w.toNat ++ rest) = .ok (w, rest) := by
  simp only [readWord, readVarint_word, if_true, UInt32.ofNat_toNat]

/-- A packed run is read up to the bytes behind it. -/
theorem readPacked_writeWords (ws : List UInt32) (rest : Bytes) :
    readPacked rest.length (writeWords ws ++ rest) = .ok (ws, rest) := by
  induction ws with
  | nil =>
      rw [readPacked]
      simp [writeWords]
  | cons w ws ih =>
      have step : writeWords (w :: ws) ++ rest = writeVarint w.toNat ++ (writeWords ws ++ rest) := by
        simp only [writeWords, List.flatMap_cons, List.append_assoc]
      have longer : rest.length < (writeVarint w.toNat ++ (writeWords ws ++ rest)).length := by
        have positive : 0 < (writeVarint w.toNat).length := List.length_pos_iff.2 (writeVarint_ne_nil _)
        simp only [List.length_append]
        omega
      rw [step, readPacked, if_pos longer]
      split
      · rename_i failed
        rw [readVarint_word] at failed
        cases failed
      · rename_i n left read
        rw [readVarint_word] at read
        cases read
        simp only [ih, UInt32.ofNat_toNat]

theorem readWords_writeWords {ws : List UInt32} (bounded : (writeWords ws).length < 2 ^ 64) (rest : Bytes) :
    readWords .lengthDelimited (writeVarint (writeWords ws).length ++ (writeWords ws ++ rest))
      = .ok (ws, rest) := by
  have whole : (writeWords ws ++ rest).length - (writeWords ws).length = rest.length := by
    rw [List.length_append]
    omega
  simp only [readWords, if_true, readVarint_writeVarint bounded, whole, readPacked_writeWords]
  rw [if_neg (by rw [List.length_append]; omega)]

theorem length_writeVarint_le {room n : Nat} (small : n < 128 ^ (room + 1)) :
    (writeVarint n).length ≤ room + 1 := by
  induction room generalizing n with
  | zero =>
      rw [writeVarint, if_pos (by omega)]
      exact Nat.le_refl _
  | succ room ih =>
      rw [writeVarint]
      split
      · simp
      · have quotient : n / 128 < 128 ^ (room + 1) := by
          rw [Nat.pow_succ] at small
          omega
        have shorter := ih quotient
        simp only [List.length_cons]
        omega

theorem length_writeWords_le (ws : List UInt32) : (writeWords ws).length ≤ 5 * ws.length := by
  induction ws with
  | nil => exact Nat.le_refl _
  | cons w ws ih =>
      have bound := w.toNat_lt
      have word : (writeVarint w.toNat).length ≤ 5 := length_writeVarint_le (by omega)
      simp only [writeWords, List.flatMap_cons, List.length_append, List.length_cons] at ih ⊢
      omega

end SensorLog.Wire
