import SensorLog.Text.Utf8

/-!
# The bytes of texts

A text as bytes is the encodings of its characters one after another (`ofText_ofList`), and reading the bytes
gives the text again. A byte below 128 stands for a character of its own, so that line feeds and digits can
be looked for byte by byte.
-/

namespace SensorLog

theorem toList_loop_eq (bytes : ByteArray) (i : Nat) (read : List UInt8) :
    ByteArray.toList.loop bytes i read = read.reverse ++ bytes.data.toList.drop i := by
  fun_induction ByteArray.toList.loop bytes i read with
  | case1 i read within ih =>
      have within' : i < bytes.data.toList.length := by simpa using within
      have byte : bytes.get! i = bytes.data.toList[i] := by simp [ByteArray.get!, within]
      rw [ih, List.drop_eq_getElem_cons within', byte]
      simp only [List.reverse_cons, List.append_assoc, List.singleton_append]
  | case2 i read beyond =>
      have beyond' : bytes.data.toList.length ≤ i := by simpa using beyond
      rw [List.drop_eq_nil_of_le beyond', List.append_nil]

theorem toList_eq_data (bytes : ByteArray) : bytes.toList = bytes.data.toList := by
  rw [ByteArray.toList, toList_loop_eq]
  rfl

namespace Bytes

/-- The bytes of a text are those of its characters, one after another. -/
theorem ofText_ofList (cs : List Char) : ofText (String.ofList cs) = cs.flatMap String.utf8EncodeChar := by
  rw [ofText, String.toUTF8_eq_toByteArray, toList_eq_data, String.toByteArray_ofList]
  exact List.toList_data_toByteArray

theorem text?_ofText (s : String) : text? (ofText s) = some s := by
  have same : (ofText s).toByteArray = s.toByteArray := by
    apply ByteArray.ext
    rw [ofText, toList_eq_data, List.data_toByteArray, Array.toArray_toList]
    rfl
  rw [text?, same, String.fromUTF8?, dif_pos s.isValidUTF8]
  rfl

/-- A text that was read has the bytes that it was read from. -/
theorem ofText_of_text? {bytes : Bytes} {s : String} (read : text? bytes = some s) : ofText s = bytes := by
  rw [text?, String.fromUTF8?] at read
  split at read
  · cases read
    show bytes.toByteArray.toList = bytes
    rw [toList_eq_data, List.data_toByteArray]
  · cases read

end Bytes

/-! ## Single bytes -/

theorem utf8EncodeChar_of_ascii {c : Char} (ascii : c.toNat < 0x80) :
    String.utf8EncodeChar c = [UInt8.ofNat c.toNat] := by
  have small : c.val.toNat ≤ 127 := Nat.le_of_lt_succ ascii
  simp only [String.utf8EncodeChar, if_pos small]
  rfl

theorem flatMap_utf8EncodeChar_of_ascii {cs : List Char} (ascii : ∀ c ∈ cs, c.toNat < 0x80) :
    cs.flatMap String.utf8EncodeChar = cs.map fun c => UInt8.ofNat c.toNat := by
  induction cs with
  | nil => rfl
  | cons c rest ih =>
      obtain ⟨first, others⟩ := List.forall_mem_cons.1 ascii
      rw [List.flatMap_cons, utf8EncodeChar_of_ascii first, ih others]
      rfl

/-- A character above 127 has no byte below 128. -/
theorem le_of_mem_utf8EncodeChar {c : Char} (large : 0x80 ≤ c.toNat) {b : UInt8}
    (member : b ∈ String.utf8EncodeChar c) : 0x80 ≤ b.toNat := by
  have byte {n : Nat} (low : 0x80 ≤ n) (high : n < 256) : 0x80 ≤ (UInt8.ofNat n).toNat := by
    rw [UInt8.toNat_ofNat_of_lt' high]
    exact low
  have above : ¬ c.val.toNat ≤ 127 := Nat.not_le.2 large
  simp only [String.utf8EncodeChar, if_neg above] at member
  split at member
  · simp only [List.mem_cons, List.not_mem_nil, or_false] at member
    rcases member with rfl | rfl <;> exact byte (by omega) (by omega)
  · split at member
    · simp only [List.mem_cons, List.not_mem_nil, or_false] at member
      rcases member with rfl | rfl | rfl <;> exact byte (by omega) (by omega)
    · simp only [List.mem_cons, List.not_mem_nil, or_false] at member
      rcases member with rfl | rfl | rfl | rfl <;> exact byte (by omega) (by omega)

/-- A byte below 128 belongs to the character with its number. -/
theorem eq_of_mem_utf8EncodeChar {c : Char} {b : UInt8} (small : b.toNat < 0x80)
    (member : b ∈ String.utf8EncodeChar c) : c.toNat = b.toNat ∧ String.utf8EncodeChar c = [b] := by
  by_cases ascii : c.toNat < 0x80
  · have encoded := utf8EncodeChar_of_ascii ascii
    rw [encoded, List.mem_singleton] at member
    subst member
    exact ⟨(UInt8.toNat_ofNat_of_lt' (Nat.lt_trans ascii (by decide))).symm, encoded⟩
  · have large := le_of_mem_utf8EncodeChar (Nat.le_of_not_lt ascii) member
    omega

/-- Bytes below 128 are characters below 128. -/
theorem ascii_of_flatMap {cs : List Char} (small : ∀ b ∈ cs.flatMap String.utf8EncodeChar, b.toNat < 0x80) :
    ∀ c ∈ cs, c.toNat < 0x80 := by
  intro c member
  obtain ⟨b, bytes, encoded⟩ := List.exists_cons_of_ne_nil (String.utf8EncodeChar_ne_nil (c := c))
  have here : b ∈ String.utf8EncodeChar c := by
    rw [encoded]
    exact .head _
  have bound := small b (List.mem_flatMap.2 ⟨c, member, here⟩)
  rw [(eq_of_mem_utf8EncodeChar bound here).1]
  exact bound

namespace Bytes

/-- A text without a character below 128 has no byte for it. -/
theorem notMem_ofText {cs : List Char} {c : Char} (ascii : c.toNat < 0x80) (absent : c ∉ cs) :
    UInt8.ofNat c.toNat ∉ ofText (String.ofList cs) := by
  have value : (UInt8.ofNat c.toNat).toNat = c.toNat :=
    UInt8.toNat_ofNat_of_lt' (Nat.lt_trans ascii (by decide))
  rw [ofText_ofList]
  intro member
  obtain ⟨d, among, here⟩ := List.mem_flatMap.1 member
  obtain ⟨same, -⟩ := eq_of_mem_utf8EncodeChar (by omega) here
  have equal : d = c := Char.toNat_inj.1 (same.trans value)
  exact absent (equal ▸ among)

/-- A text that does not end in a character below 128 does not end in its byte. -/
theorem getLast?_ofText_ne {cs : List Char} {c : Char} (ascii : c.toNat < 0x80)
    (other : cs.getLast? ≠ some c) :
    (ofText (String.ofList cs)).getLast? ≠ some (UInt8.ofNat c.toNat) := by
  have value : (UInt8.ofNat c.toNat).toNat = c.toNat :=
    UInt8.toNat_ofNat_of_lt' (Nat.lt_trans ascii (by decide))
  rw [ofText_ofList]
  intro last
  rcases List.eq_nil_or_concat cs with none | ⟨front, d, split⟩
  · rw [none] at last
    cases last
  · rw [split, List.concat_eq_append, List.flatMap_append, List.flatMap_singleton] at last
    have filled : String.utf8EncodeChar d ≠ [] := String.utf8EncodeChar_ne_nil
    rw [List.getLast?_append, List.getLast?_eq_some_getLast filled, Option.some_or] at last
    rw [← List.getLast?_eq_some_getLast filled] at last
    obtain ⟨same, -⟩ := eq_of_mem_utf8EncodeChar (by omega) (List.mem_of_getLast? last)
    have equal : d = c := Char.toNat_inj.1 (same.trans value)
    rw [split, List.concat_eq_append, List.getLast?_concat, equal] at other
    exact other rfl

end Bytes

end SensorLog
