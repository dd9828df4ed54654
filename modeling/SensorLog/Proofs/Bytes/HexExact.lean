import Mathlib
import SensorLog.Bytes.HexText
import SensorLog.Proofs.Text.Utf8

/-!
# Which texts are read as bytes

`Hex.read` takes a text exactly if the characters that are no ASCII blanks come in pairs of two digits or of a plus
sign and a digit, and the bytes are the values of the pairs, where a plus sign counts nothing (`read_exact`). Without
a plus sign these are the texts of an even number of digits. Pairs are made of bytes, whatever characters they
belong to; a pair that is taken has none above 127 (`ascii_of_readPair`), so that bytes and characters agree.
-/

namespace SensorLog.Hex

/-- The sixteen digits in their order. -/
def numerals : List Char :=
  "0123456789abcdef".toList

/-- A character is a digit of either case. -/
def isDigit (c : Char) : Bool :=
  numerals.contains c.toLower

/-- The place of a digit among the sixteen. -/
def place (c : Char) : Nat :=
  numerals.idxOf c.toLower

/-- Characters in pairs of a digit, or a plus sign, and a digit. -/
def Paired : List Char → Prop
  | [] => True
  | [_] => False
  | a :: b :: rest => (isDigit a = true ∨ a = '+') ∧ isDigit b = true ∧ Paired rest

/-- The value of a pair; a plus sign counts nothing. -/
def pairValue (a b : Char) : Nat :=
  (if a = '+' then 0 else place a) * 16 + place b

/-- The values of pairs. -/
def pairValues : List Char → Bytes
  | a :: b :: rest => UInt8.ofNat (pairValue a b) :: pairValues rest
  | _ => []

/-- Space, tab, line feed, form feed and carriage return. -/
def isSpace (c : Char) : Bool :=
  [0x20, 0x09, 0x0A, 0x0C, 0x0D].contains c.toNat

/-- The characters of a text that are no ASCII blanks. -/
def solid (text : String) : List Char :=
  text.toList.filter (!isSpace ·)

variable {a b c d : Char} {cs : List Char} {bytes : Bytes}

/-! ## Digits -/

/-- The characters that are digits. -/
theorem range_of_value? {c : Char} {n : Nat} (digit : value? c = some n) :
    (0x30 ≤ c.toNat ∧ c.toNat ≤ 0x39 ∧ n + 0x30 = c.toNat) ∨
      (0x61 ≤ c.toNat ∧ c.toNat ≤ 0x66 ∧ n + 0x57 = c.toNat) ∨
      (0x41 ≤ c.toNat ∧ c.toNat ≤ 0x46 ∧ n + 0x37 = c.toNat) := by
  have order (a b : Char) : a ≤ b ↔ a.toNat ≤ b.toNat := UInt32.le_iff_toNat_le
  have numbers : '0'.toNat = 0x30 ∧ '9'.toNat = 0x39 ∧ 'a'.toNat = 0x61 ∧ 'f'.toNat = 0x66 ∧
      'A'.toNat = 0x41 ∧ 'F'.toNat = 0x46 := by decide
  simp only [value?, order, numbers] at digit
  split at digit
  · cases digit
    omega
  · split at digit
    · cases digit
      omega
    · split at digit
      · cases digit
        omega
      · cases digit

theorem lt_of_value? {n : Nat} (digit : value? c = some n) : n < 16 := by
  have range := range_of_value? digit
  omega

theorem ascii_of_value? {n : Nat} (digit : value? c = some n) : c.toNat < 0x80 := by
  have range := range_of_value? digit
  omega

/-- A digit is told from other characters by its number. -/
theorem ne_of_value? {n : Nat} (digit : value? c = some n) (other : value? d = none) : c ≠ d := by
  rintro rfl
  rw [digit] at other
  cases other

theorem ascii_of_isDigit (digit : isDigit c = true) : c.toNat < 0x80 := by
  have small : numerals.all (·.toNat < 0x80) = true := by decide
  by_contra large
  have same : c.toLower = c := by
    rw [Char.toLower, dif_neg]
    rintro ⟨-, capital⟩
    exact large (Nat.lt_of_le_of_lt (UInt32.le_iff_toNat_le.1 capital) (by decide))
  rw [isDigit, same] at digit
  exact large (of_decide_eq_true (List.all_eq_true.1 small c (List.contains_iff_mem.1 digit)))

/-- Digits have their place for a value, and nothing else has one. -/
theorem value?_eq (c : Char) : value? c = if isDigit c = true then some (place c) else none := by
  have table : ∀ k : Fin 128, value? (Char.ofNat k) =
      if isDigit (Char.ofNat k) = true then some (place (Char.ofNat k)) else none := by
    decide +kernel
  by_cases ascii : c.toNat < 128
  · have found := table ⟨c.toNat, ascii⟩
    rwa [Char.ofNat_toNat] at found
  · rw [if_neg (mt ascii_of_isDigit ascii)]
    cases value : value? c with
    | none => rfl
    | some n => exact absurd (ascii_of_value? value) ascii

theorem value?_eq_some_iff {n : Nat} : value? c = some n ↔ isDigit c = true ∧ place c = n := by
  rw [value?_eq]
  split
  · rename_i digit
    rw [Option.some_inj]
    exact (and_iff_right digit).symm
  · rename_i other
    exact iff_of_false nofun fun found => other found.1

/-! ## Blanks -/

theorem isAsciiBlank_of_ascii (ascii : c.toNat < 0x80) :
    Text.isAsciiBlank (UInt8.ofNat c.toNat) = isSpace c := by
  have same (m : Nat) (small : m < 0x80) : (UInt8.ofNat c.toNat == UInt8.ofNat m) = (c.toNat == m) := by
    rw [Bool.eq_iff_iff, beq_iff_eq, beq_iff_eq, ← UInt8.toNat_inj,
      UInt8.toNat_ofNat_of_lt' (Nat.lt_trans ascii (by decide)),
      UInt8.toNat_ofNat_of_lt' (Nat.lt_trans small (by decide))]
  have table : Text.isAsciiBlank (UInt8.ofNat c.toNat) =
      (c.toNat == 0x20 || c.toNat == 0x09 || c.toNat == 0x0A || c.toNat == 0x0C || c.toNat == 0x0D) := by
    rw [← same 0x20 (by decide), ← same 0x09 (by decide), ← same 0x0A (by decide), ← same 0x0C (by decide),
      ← same 0x0D (by decide)]
    rfl
  rw [table, isSpace]
  simp only [List.contains_cons, List.contains_nil, Bool.or_false, Bool.or_assoc]

theorem isSpace_of_value? {n : Nat} (digit : value? c = some n) : isSpace c = false := by
  have range := range_of_value? digit
  simp only [isSpace, List.contains_cons, List.contains_nil, Bool.or_false, Bool.or_eq_false_iff,
    beq_eq_false_iff_ne]
  omega

/-- No byte of a character above 127 is a blank. -/
theorem filter_utf8EncodeChar (c : Char) :
    (String.utf8EncodeChar c).filter (!Text.isAsciiBlank ·) =
      if isSpace c = true then [] else String.utf8EncodeChar c := by
  by_cases ascii : c.toNat < 0x80
  · rw [utf8EncodeChar_of_ascii ascii, List.filter_singleton, isAsciiBlank_of_ascii ascii]
    cases isSpace c <;> rfl
  · have large := Nat.le_of_not_lt ascii
    have other : isSpace c = false := by
      simp only [isSpace, List.contains_cons, List.contains_nil, Bool.or_false, Bool.or_eq_false_iff,
        beq_eq_false_iff_ne]
      omega
    rw [other, if_neg Bool.false_ne_true, List.filter_eq_self]
    intro byte member
    have above := le_of_mem_utf8EncodeChar large member
    simp only [Text.isAsciiBlank, Bool.not_eq_true', Bool.or_eq_false_iff, beq_eq_false_iff_ne, ne_eq,
      ← UInt8.toNat_inj]
    refine ⟨⟨⟨⟨?_, ?_⟩, ?_⟩, ?_⟩, ?_⟩ <;>
      (intro equal; rw [equal] at above; revert above; decide)

theorem filter_ofText_eq (text : String) :
    (Bytes.ofText text).filter (!Text.isAsciiBlank ·) = (solid text).flatMap String.utf8EncodeChar := by
  rw [solid, ← String.ofList_toList (s := text), Bytes.ofText_ofList, String.toList_ofList]
  induction text.toList with
  | nil => rfl
  | cons c rest ih =>
      rw [List.flatMap_cons, List.filter_append, ih, filter_utf8EncodeChar]
      cases blank : isSpace c with
      | true => simp [blank]
      | false => simp [blank]

/-! ## Numbers -/

theorem digits_of_readDigits {base max acc n : Nat} (read : Number.readDigits base max acc cs = .ok n) :
    ∀ c ∈ cs, isDigit c = true := by
  induction cs generalizing acc with
  | nil => exact nofun
  | cons c rest ih =>
      rw [Number.readDigits] at read
      split at read
      · cases read
      · rename_i m digit
        split at read
        · cases read
        · rw [Number.digit?] at digit
          have first := (value?_eq_some_iff.1 (Option.filter_eq_some_iff.1 digit).1).1
          exact List.forall_mem_cons.2 ⟨first, ih read⟩

/-- A number is made of digits, but for a sign at its start. -/
theorem digits_of_readNat {base max n : Nat} {text : String} (read : Number.readNat base max text = .ok n) :
    ∃ c rest, text.toList = c :: rest ∧ (isDigit c = true ∨ c = '+') ∧ ∀ d ∈ rest, isDigit d = true := by
  rw [Number.readNat] at read
  split at read
  · cases read
  · cases read
  · rename_i digits _ signed
    exact ⟨'+', digits, signed, .inr rfl, digits_of_readDigits read⟩
  · rename_i filled _ _
    obtain ⟨c, rest, whole⟩ := List.exists_cons_of_ne_nil filled
    have digits := digits_of_readDigits read
    rw [whole] at digits
    obtain ⟨first, others⟩ := List.forall_mem_cons.1 digits
    exact ⟨c, rest, whole, .inl first, others⟩

/-! ## Pairs -/

/-- Two bytes below 128 are two characters. -/
theorem fault?_of_ascii {a b : UInt8} (first : a < 0x80) (second : b < 0x80) : Utf8.fault? [a, b] = none := by
  have single {b : UInt8} (small : b < 0x80) : Utf8.following? b = some [] := if_pos small
  rw [Utf8.fault?, Utf8.faultFrom?, single first]
  simp only [Utf8.matchRanges]
  rw [Utf8.faultFrom?, single second]
  simp only [Utf8.matchRanges, Utf8.faultFrom?]

theorem text?_of_ascii (first : c.toNat < 0x80) (second : d.toNat < 0x80) :
    Bytes.text? [UInt8.ofNat c.toNat, UInt8.ofNat d.toNat] = some (String.ofList [c, d]) := by
  have bytes : Bytes.ofText (String.ofList [c, d]) = [UInt8.ofNat c.toNat, UInt8.ofNat d.toNat] := by
    rw [Bytes.ofText_ofList, List.flatMap_cons, List.flatMap_singleton, utf8EncodeChar_of_ascii first,
      utf8EncodeChar_of_ascii second]
    rfl
  rw [← bytes, Bytes.text?_ofText]

/-- Two digits are a number below 256. -/
theorem readNat_of_digits {m n : Nat} (high : value? c = some m) (low : value? d = some n) :
    Number.readNat 16 255 (String.ofList [c, d]) = .ok (m * 16 + n) := by
  have highLt := lt_of_value? high
  have lowLt := lt_of_value? low
  have unsigned : c ≠ '+' := ne_of_value? high (by decide)
  have first : Number.digit? 16 c = some m := by
    rw [Number.digit?, high, Option.filter_some, if_pos (decide_eq_true highLt)]
  have second : Number.digit? 16 d = some n := by
    rw [Number.digit?, low, Option.filter_some, if_pos (decide_eq_true lowLt)]
  have digits : Number.readDigits 16 255 0 [c, d] = .ok (m * 16 + n) := by
    have one : ¬ 255 < 0 * 16 + m := by omega
    have two : ¬ 255 < (0 * 16 + m) * 16 + n := by omega
    simp only [Number.readDigits, first, second, if_neg one, if_neg two]
    congr 1
    omega
  rw [Number.readNat, String.toList_ofList]
  split
  · rename_i none
    cases none
  · rename_i sign
    cases sign
  · rename_i sign
    cases sign
    exact absurd rfl unsigned
  · exact digits

/-- A plus sign and a digit are the number of the digit. -/
theorem readNat_of_signed {n : Nat} (low : value? d = some n) :
    Number.readNat 16 255 (String.ofList ['+', d]) = .ok n := by
  have bound := lt_of_value? low
  have digit : Number.digit? 16 d = some n := by
    rw [Number.digit?, low, Option.filter_some, if_pos (decide_eq_true bound)]
  have within : ¬ 255 < 0 * 16 + n := by omega
  simp only [Number.readNat, String.toList_ofList, Number.readDigits, digit, if_neg within]
  congr 1
  omega

/-- Two characters are a number exactly if they are a digit, or a plus sign, and a digit. -/
theorem readNat_pair_iff {n : Nat} :
    Number.readNat 16 255 (String.ofList [a, b]) = .ok n ↔
      (isDigit a = true ∨ a = '+') ∧ isDigit b = true ∧ n = pairValue a b := by
  have value (high : isDigit a = true ∨ a = '+') (low : isDigit b = true) :
      Number.readNat 16 255 (String.ofList [a, b]) = .ok (pairValue a b) := by
    have second : value? b = some (place b) := value?_eq_some_iff.2 ⟨low, rfl⟩
    rcases high with digit | rfl
    · have first : value? a = some (place a) := value?_eq_some_iff.2 ⟨digit, rfl⟩
      rw [readNat_of_digits first second, pairValue, if_neg (ne_of_value? first (by decide))]
    · rw [readNat_of_signed second, pairValue, if_pos rfl, Nat.zero_mul, Nat.zero_add]
  constructor
  · intro read
    obtain ⟨c, rest, whole, high, low⟩ := digits_of_readNat read
    rw [String.toList_ofList] at whole
    cases whole
    have low := low b (.head _)
    rw [value high low] at read
    exact ⟨high, low, (Except.ok.inj read).symm⟩
  · rintro ⟨high, low, rfl⟩
    exact value high low

/-- A pair that is read as a byte has no byte above 127. -/
theorem ascii_of_readPair {first second byte : UInt8} (read : readPair first second = .ok byte) :
    first.toNat < 0x80 ∧ second.toNat < 0x80 := by
  unfold readPair at read
  split at read
  · cases read
  · dsimp only at read
    split at read
    · rename_i n number
      cases text : Bytes.text? [first, second] with
      | none =>
          rw [text] at number
          cases number
      | some s =>
          rw [text, Option.getD_some] at number
          obtain ⟨c, rest, whole, head, digits⟩ := digits_of_readNat number
          have ascii : ∀ c ∈ s.toList, c.toNat < 0x80 := by
            rw [whole]
            refine List.forall_mem_cons.2 ⟨?_, fun d member => ascii_of_isDigit (digits d member)⟩
            rcases head with digit | rfl
            · exact ascii_of_isDigit digit
            · decide
          have bytes : s.toList.map (fun c => UInt8.ofNat c.toNat) = [first, second] := by
            rw [← flatMap_utf8EncodeChar_of_ascii ascii, ← Bytes.ofText_ofList, String.ofList_toList]
            exact Bytes.ofText_of_text? text
          have small : ∀ b ∈ [first, second], b.toNat < 0x80 := by
            rw [← bytes]
            refine List.forall_mem_map.2 fun c member => ?_
            have bound := ascii c member
            rw [UInt8.toNat_ofNat_of_lt' (Nat.lt_trans bound (by decide))]
            exact bound
          exact ⟨small _ (.head _), small _ (.tail _ (.head _))⟩
    · cases read

theorem readPair_eq_ok_iff (first : a.toNat < 0x80) (second : b.toNat < 0x80) {byte : UInt8} :
    readPair (UInt8.ofNat a.toNat) (UInt8.ofNat b.toNat) = .ok byte ↔
      (isDigit a = true ∨ a = '+') ∧ isDigit b = true ∧ byte = UInt8.ofNat (pairValue a b) := by
  have small {c : Char} (ascii : c.toNat < 0x80) : UInt8.ofNat c.toNat < 0x80 := by
    rw [UInt8.lt_iff_toNat_lt, UInt8.toNat_ofNat_of_lt' (Nat.lt_trans ascii (by decide))]
    exact ascii
  rw [readPair, fault?_of_ascii (small first) (small second)]
  simp only [text?_of_ascii first second, Option.getD_some]
  cases number : Number.readNat 16 255 (String.ofList [a, b]) with
  | error fault =>
      have none : ¬ ((isDigit a = true ∨ a = '+') ∧ isDigit b = true ∧ pairValue a b = pairValue a b) := by
        rw [← readNat_pair_iff, number]
        exact nofun
      constructor
      · exact nofun
      · rintro ⟨high, low, -⟩
        exact absurd ⟨high, low, rfl⟩ none
  | ok n =>
      obtain ⟨high, low, rfl⟩ := readNat_pair_iff.1 number
      rw [Except.ok.injEq]
      exact ⟨fun same => ⟨high, low, same.symm⟩, fun value => value.2.2.symm⟩

/-! ## Texts -/

theorem ascii_of_readPairs {input : Bytes} (read : readPairs input = .ok bytes) (even : input.length % 2 = 0) :
    ∀ b ∈ input, b.toNat < 0x80 := by
  fun_induction readPairs input generalizing bytes with
  | case1 => cases read
  | case2 => cases read
  | case3 first second rest byte pair _ later ih =>
      obtain ⟨one, two⟩ := ascii_of_readPair pair
      have even : rest.length % 2 = 0 := by
        simp only [List.length_cons] at even
        omega
      exact List.forall_mem_cons.2 ⟨one, List.forall_mem_cons.2 ⟨two, ih later even⟩⟩
  | case4 input other =>
      match input, other, even with
      | [], _, _ => exact nofun
      | first :: second :: rest, other, _ => exact absurd rfl (other first second rest)

/-- Characters below 128 are read two by two. -/
theorem readPairs_eq_ok_iff (ascii : ∀ c ∈ cs, c.toNat < 0x80) (even : cs.length % 2 = 0) :
    readPairs (cs.map fun c => UInt8.ofNat c.toNat) = .ok bytes ↔ Paired cs ∧ bytes = pairValues cs := by
  induction cs using Paired.induct generalizing bytes with
  | case1 =>
      rw [List.map_nil, readPairs, pairValues, Paired, true_and, Except.ok.injEq, eq_comm]
      · exact nofun
      · exact nofun
  | case2 => simp at even
  | case3 a b rest ih =>
      obtain ⟨first, others⟩ := List.forall_mem_cons.1 ascii
      obtain ⟨second, others⟩ := List.forall_mem_cons.1 others
      have even : rest.length % 2 = 0 := by
        simp only [List.length_cons] at even
        omega
      simp only [List.map_cons, readPairs, Paired, pairValues]
      constructor
      · intro read
        split at read
        · cases read
        · rename_i byte pair
          split at read
          · cases read
          · rename_i later more
            cases read
            obtain ⟨high, low, rfl⟩ := (readPair_eq_ok_iff first second).1 pair
            obtain ⟨paired, rfl⟩ := (ih others even).1 more
            exact ⟨⟨high, low, paired⟩, rfl⟩
      · rintro ⟨⟨high, low, paired⟩, rfl⟩
        have pair := (readPair_eq_ok_iff first second).2 ⟨high, low, rfl⟩
        have more := (ih others even).2 ⟨paired, rfl⟩
        simp only [pair, more]

theorem Paired.ascii (paired : Paired cs) : cs.length % 2 = 0 ∧ ∀ c ∈ cs, c.toNat < 0x80 := by
  induction cs using Paired.induct with
  | case1 => exact ⟨rfl, nofun⟩
  | case2 => cases paired
  | case3 a b rest ih =>
      obtain ⟨high, low, later⟩ := paired
      obtain ⟨even, others⟩ := ih later
      have first : a.toNat < 0x80 := by
        rcases high with digit | rfl
        · exact ascii_of_isDigit digit
        · decide
      constructor
      · simp only [List.length_cons]
        omega
      · exact List.forall_mem_cons.2 ⟨first, List.forall_mem_cons.2 ⟨ascii_of_isDigit low, others⟩⟩

/-- Without a plus sign pairs are an even number of digits. -/
theorem paired_iff (unsigned : '+' ∉ cs) : Paired cs ↔ cs.length % 2 = 0 ∧ ∀ c ∈ cs, isDigit c = true := by
  induction cs using Paired.induct with
  | case1 => simp [Paired]
  | case2 => simp [Paired]
  | case3 a b rest ih =>
      obtain ⟨first, others⟩ := not_or.1 (List.mem_cons.not.1 unsigned)
      obtain ⟨-, others⟩ := not_or.1 (List.mem_cons.not.1 others)
      have length : (a :: b :: rest).length % 2 = rest.length % 2 := by
        simp only [List.length_cons]
        omega
      have digit : (isDigit a = true ∨ a = '+') ↔ isDigit a = true := or_iff_left (Ne.symm first)
      rw [Paired, ih others, length, List.forall_mem_cons, List.forall_mem_cons, digit]
      tauto

theorem read_eq_ok_iff (text : String) (bytes : Bytes) :
    read text = .ok bytes ↔ Paired (solid text) ∧ bytes = pairValues (solid text) := by
  rw [read, filter_ofText_eq]
  constructor
  · intro taken
    split at taken
    · cases taken
    · rename_i paired
      have even := Nat.mod_two_ne_one.1 paired
      have ascii := ascii_of_flatMap (ascii_of_readPairs taken even)
      rw [flatMap_utf8EncodeChar_of_ascii ascii] at taken even
      rw [List.length_map] at even
      exact (readPairs_eq_ok_iff ascii even).1 taken
  · rintro ⟨paired, values⟩
    obtain ⟨even, ascii⟩ := paired.ascii
    rw [flatMap_utf8EncodeChar_of_ascii ascii, List.length_map, if_neg (by omega)]
    exact (readPairs_eq_ok_iff ascii even).2 ⟨paired, values⟩

/-- A text is read exactly if its characters other than ASCII blanks are pairs, and the bytes are the values of the
    pairs. Without a plus sign these are the texts of an even number of digits. -/
theorem read_exact (text : String) :
    (∀ bytes, read text = .ok bytes ↔ Paired (solid text) ∧ bytes = pairValues (solid text)) ∧
      ('+' ∉ text.toList →
        (Paired (solid text) ↔ (solid text).length % 2 = 0 ∧ ∀ c ∈ solid text, isDigit c = true)) := by
  constructor
  · exact read_eq_ok_iff text
  · intro unsigned
    exact paired_iff fun member => unsigned (List.mem_of_mem_filter member)

/-- A plus sign is no digit, and yet it is taken in front of one. -/
theorem read_plus : read "+f" = .ok [0x0F] ∧ ¬ ∀ c ∈ solid "+f", isDigit c = true := by
  constructor
  · decide +kernel
  · intro digits
    have sign := digits '+' (by decide +kernel)
    cases sign

end SensorLog.Hex
