import SensorLog.Proofs.Wire.RoundTrip
import SensorLog.Proofs.Wire.Taken

/-!
# The grammar of messages

`Message` says what a well-formed message is, without a reader: occurrences of fields one after another, each a
key and a value of the layout that the key announces, where a group is a message between two keys of one tag.
Numbers and keys may be spelled longer than needed, and groups may be nested to any depth. Whatever gets past
an occurrence has taken exactly its bytes (`skipPlain_value`, `skipGroups_message`).
-/

namespace SensorLog.Wire

/-- Bytes that stand for a number: groups of seven bits, lowest first, all but the last with the high bit set. -/
inductive Groups : Nat → Bytes → Prop
  | last (b : UInt8) (low : b.toNat < 128) : Groups b.toNat [b]
  | more (b : UInt8) {n : Nat} {bytes : Bytes} (high : 128 ≤ b.toNat) (later : Groups n bytes) :
      Groups (b.toNat - 128 + 128 * n) (b :: bytes)

/-- A spelling of a number of 64 bits. -/
structure Spells (n : Nat) (bytes : Bytes) : Prop where
  groups : Groups n bytes
  room : bytes.length ≤ 10
  bounded : n < 2 ^ 64

/-- A spelling of a key. -/
structure Key.Spells (key : Key) (bytes : Bytes) : Prop where
  positive : 0 < key.tag
  bounded : key.tag < 2 ^ 29
  number : Wire.Spells (8 * key.tag + key.wire.code) bytes

/-- A value that is not a group: its content and its bytes. -/
inductive Value : WireType → Bytes → Bytes → Prop
  | varint {n : Nat} {content : Bytes} (number : Spells n content) : Value .varint content content
  | sixtyFourBit {content : Bytes} (eight : content.length = 8) : Value .sixtyFourBit content content
  | thirtyTwoBit {content : Bytes} (four : content.length = 4) : Value .thirtyTwoBit content content
  | lengthDelimited {size content : Bytes} (number : Spells content.length size) :
      Value .lengthDelimited content (size ++ content)

/-- An occurrence of a field. -/
structure Occurrence where
  key : Key
  content : Bytes

/-- A message: the occurrences of its fields and its bytes. -/
inductive Message : List Occurrence → Bytes → Prop
  | nil : Message [] []
  | plain {key : Key} {content opening value bytes : Bytes} {later : List Occurrence}
      (opens : key.Spells opening) (valued : Value key.wire content value) (follows : Message later bytes) :
      Message (⟨key, content⟩ :: later) (opening ++ (value ++ bytes))
  | group {tag : Nat} {content opening closing bytes : Bytes} {inner later : List Occurrence}
      (opens : Key.Spells ⟨tag, .startGroup⟩ opening) (inside : Message inner content)
      (closes : Key.Spells ⟨tag, .endGroup⟩ closing) (follows : Message later bytes) :
      Message (⟨⟨tag, .startGroup⟩, content⟩ :: later) (opening ++ (content ++ (closing ++ bytes)))

/-! ## Numbers and keys are read -/

theorem Groups.ne_nil {n : Nat} {bytes : Bytes} (groups : Groups n bytes) : bytes ≠ [] := by
  cases groups <;> simp

theorem Spells.of_byte {b : UInt8} (low : b.toNat < 128) : Spells b.toNat [b] :=
  ⟨.last b low, by simp, by omega⟩

theorem Key.Spells.of_byte {key : Key} {b : UInt8} (positive : 0 < key.tag)
    (number : b.toNat = 8 * key.tag + key.wire.code) (low : b.toNat < 128) : key.Spells [b] := by
  refine ⟨positive, by omega, ?_⟩
  rw [← number]
  exact .of_byte low

theorem readGroups_of_groups {n room : Nat} {bytes : Bytes} (groups : Groups n bytes)
    (fits : bytes.length ≤ room + 1) (bounded : n < 2 * 128 ^ room) (rest : Bytes) :
    readGroups (room + 1) (bytes ++ rest) = .ok (n, rest) := by
  induction groups generalizing room with
  | last b low =>
      have one : ¬(room = 0 ∧ 2 ≤ b.toNat) := by
        rintro ⟨rfl, big⟩
        omega
      simp only [List.cons_append, List.nil_append, readGroups, if_pos low, if_neg one]
  | more b high later ih =>
      have some := List.length_pos_iff.2 later.ne_nil
      rw [List.length_cons] at fits
      cases room with
      | zero => omega
      | succ room =>
          rw [Nat.pow_succ] at bounded
          rw [List.cons_append, readGroups, if_neg (Nat.not_lt.2 high), ih (by omega) (by omega)]

theorem readVarint_of_spells {n : Nat} {bytes : Bytes} (number : Spells n bytes) (rest : Bytes) :
    readVarint (bytes ++ rest) = .ok (n, rest) := by
  have bounded := number.bounded
  exact readGroups_of_groups number.groups number.room (by omega) rest

theorem readKey_of_spells {key : Key} {bytes : Bytes} (spells : key.Spells bytes) (rest : Bytes) :
    readKey (bytes ++ rest) = .ok (key, rest) := by
  simp only [readKey, readVarint_of_spells spells.number, Key.ofNat?_write key spells.positive spells.bounded]

theorem Key.Spells.ne_nil {key : Key} {bytes : Bytes} (spells : key.Spells bytes) : bytes ≠ [] :=
  spells.number.groups.ne_nil

/-! ## Values are passed over -/

theorem skipPlain_value {wire : WireType} {content value : Bytes} (valued : Value wire content value)
    (rest : Bytes) : skipPlain wire (value ++ rest) = .ok rest := by
  cases valued with
  | varint number => simp only [skipPlain, readVarint_of_spells number]
  | sixtyFourBit eight => rw [skipPlain, ← eight, skipBytes_append]
  | thirtyTwoBit four => rw [skipPlain, ← four, skipBytes_append]
  | lengthDelimited number =>
      simp only [skipPlain, List.append_assoc, readVarint_of_spells number, skipBytes_append]

theorem Value.ne_startGroup {wire : WireType} {content value : Bytes} (valued : Value wire content value) :
    wire ≠ .startGroup := by
  cases valued <;> decide

theorem Value.ne_endGroup {wire : WireType} {content value : Bytes} (valued : Value wire content value) :
    wire ≠ .endGroup := by
  cases valued <;> decide

/-- A message inside groups is passed over as a whole, unless it is nested too deep. -/
theorem skipGroups_message {occurrences : List Occurrence} {bytes : Bytes} (message : Message occurrences bytes)
    {tag : Nat} {outer : List Nat} {rest out : Bytes}
    (skipped : skipGroups (tag :: outer) (bytes ++ rest) = .ok out) : skipGroups (tag :: outer) rest = .ok out := by
  induction message generalizing tag outer rest with
  | nil => exact skipped
  | plain opens valued follows ih =>
      rw [List.append_assoc, List.append_assoc, skipGroups_of_key (readKey_of_spells opens _),
        if_neg valued.ne_endGroup] at skipped
      split at skipped
      · cases skipped
      · rw [if_neg valued.ne_startGroup, skipPlain_value valued] at skipped
        exact ih skipped
  | group opens inside closes follows ihInside ihFollows =>
      rw [List.append_assoc, List.append_assoc, List.append_assoc, skipGroups_of_key (readKey_of_spells opens _),
        if_neg nofun] at skipped
      split at skipped
      · cases skipped
      · rw [if_pos rfl] at skipped
        have closing := ihInside skipped
        rw [skipGroups_of_key (readKey_of_spells closes _), if_pos rfl, if_pos rfl] at closing
        exact ihFollows closing

/-- A group that is passed over has ended at its closing key. -/
theorem skip_group {tag : Nat} {inner : List Occurrence} {content closing rest out : Bytes}
    (inside : Message inner content) (closes : Key.Spells ⟨tag, .endGroup⟩ closing)
    (skipped : skip ⟨tag, .startGroup⟩ (content ++ (closing ++ rest)) = .ok out) : out = rest := by
  rw [skip, if_pos rfl] at skipped
  have closing := skipGroups_message inside skipped
  rw [skipGroups_of_key (readKey_of_spells closes _), if_pos rfl, if_pos rfl, skipGroups] at closing
  cases closing
  rfl

/-! ## Words are read from values -/

theorem readWord_value {wire : WireType} {content value rest out : Bytes} {w : UInt32}
    (valued : Value wire content value) (read : readWord wire (value ++ rest) = .ok (w, out)) : out = rest := by
  cases valued with
  | varint number =>
      simp only [readWord, if_true, readVarint_of_spells number] at read
      cases read
      rfl
  | sixtyFourBit | thirtyTwoBit | lengthDelimited => cases read

/-- Reading words takes the whole value, and only an empty run has none. -/
theorem readWords_value {wire : WireType} {content value rest out : Bytes} {ws : List UInt32}
    (valued : Value wire content value) (read : readWords wire (value ++ rest) = .ok (ws, out)) :
    out = rest ∧ (ws = [] → wire = .lengthDelimited ∧ content = []) := by
  by_cases packed : wire = .lengthDelimited
  · subst packed
    cases valued with
    | lengthDelimited number =>
        have behind : (content ++ rest).length - content.length = rest.length := by
          rw [List.length_append]
          omega
        simp only [readWords, if_true, List.append_assoc, readVarint_of_spells number, behind] at read
        rw [if_neg (by rw [List.length_append]; omega)] at read
        have length := readPacked_length read
        obtain ⟨taken, whole, none, -⟩ := readPacked_taken read
        obtain ⟨rfl, rfl⟩ := List.append_inj' whole length.symm
        exact ⟨rfl, fun empty => ⟨rfl, none empty⟩⟩
  · rw [readWords, if_neg packed] at read
    split at read
    · cases read
    · rename_i one
      cases read
      exact ⟨readWord_value valued one, fun none => absurd none (List.cons_ne_nil _ _)⟩

/-! ## Groups inside groups -/

/-- A message that takes so many levels: one for its fields, and those of what is inside its groups. -/
inductive Nested : Nat → List Occurrence → Bytes → Prop
  | nil {depth : Nat} : Nested depth [] []
  | plain {depth : Nat} {key : Key} {content opening value bytes : Bytes} {later : List Occurrence}
      (opens : key.Spells opening) (valued : Value key.wire content value)
      (follows : Nested (depth + 1) later bytes) :
      Nested (depth + 1) (⟨key, content⟩ :: later) (opening ++ (value ++ bytes))
  | group {depth tag : Nat} {content opening closing bytes : Bytes} {inner later : List Occurrence}
      (opens : Key.Spells ⟨tag, .startGroup⟩ opening) (inside : Nested depth inner content)
      (closes : Key.Spells ⟨tag, .endGroup⟩ closing) (follows : Nested (depth + 1) later bytes) :
      Nested (depth + 1) (⟨⟨tag, .startGroup⟩, content⟩ :: later) (opening ++ (content ++ (closing ++ bytes)))

/-- A message inside groups is passed over if there is room for its levels. -/
theorem skipGroups_nested {depth : Nat} {occurrences : List Occurrence} {bytes : Bytes}
    (nested : Nested depth occurrences bytes) {tag : Nat} {outer : List Nat}
    (room : (tag :: outer).length + depth ≤ maxDepth) (rest : Bytes) :
    skipGroups (tag :: outer) (bytes ++ rest) = skipGroups (tag :: outer) rest := by
  induction nested generalizing tag outer rest with
  | nil => rfl
  | plain opens valued follows ih =>
      have shallow : ¬ maxDepth ≤ (tag :: outer).length := by omega
      rw [List.append_assoc, List.append_assoc, skipGroups_of_key (readKey_of_spells opens _),
        if_neg valued.ne_endGroup, if_neg shallow, if_neg valued.ne_startGroup, skipPlain_value valued]
      exact ih room rest
  | @group depth inside _ _ _ _ _ _ opens _ closes _ ihInside ihFollows =>
      have shallow : ¬ maxDepth ≤ (tag :: outer).length := by omega
      have deeper : (inside :: tag :: outer).length + depth ≤ maxDepth := by
        rw [List.length_cons]
        omega
      rw [List.append_assoc, List.append_assoc, List.append_assoc, skipGroups_of_key (readKey_of_spells opens _),
        if_neg nofun, if_neg shallow, if_pos rfl, ihInside deeper, skipGroups_of_key (readKey_of_spells closes _),
        if_pos rfl, if_pos rfl]
      exact ihFollows room rest

/-- A message that is passed over inside groups had room for its levels. -/
theorem nested_of_skipGroups {occurrences : List Occurrence} {bytes : Bytes} (message : Message occurrences bytes)
    {tag : Nat} {outer : List Nat} {rest out : Bytes}
    (skipped : skipGroups (tag :: outer) (bytes ++ rest) = .ok out) :
    Nested (maxDepth - (tag :: outer).length) occurrences bytes := by
  induction message generalizing tag outer rest with
  | nil => exact .nil
  | plain opens valued follows ih =>
      rw [List.append_assoc, List.append_assoc, skipGroups_of_key (readKey_of_spells opens _),
        if_neg valued.ne_endGroup] at skipped
      split at skipped
      · cases skipped
      · rename_i shallow
        rw [if_neg valued.ne_startGroup, skipPlain_value valued] at skipped
        have later := ih skipped
        obtain ⟨depth, levels⟩ := Nat.exists_eq_add_one_of_ne_zero
          (Nat.sub_ne_zero_of_lt (Nat.lt_of_not_le shallow))
        rw [levels] at later ⊢
        exact .plain opens valued later
  | @group inside _ _ _ _ _ _ opens message closes _ ihInside ihFollows =>
      rw [List.append_assoc, List.append_assoc, List.append_assoc, skipGroups_of_key (readKey_of_spells opens _),
        if_neg nofun] at skipped
      split at skipped
      · cases skipped
      · rename_i shallow
        rw [if_pos rfl] at skipped
        have inner := ihInside skipped
        have closing := skipGroups_message message skipped
        rw [skipGroups_of_key (readKey_of_spells closes _), if_pos rfl, if_pos rfl] at closing
        have later := ihFollows closing
        have levels : maxDepth - (tag :: outer).length = maxDepth - (inside :: tag :: outer).length + 1 := by
          rw [List.length_cons (a := inside)]
          omega
        rw [levels] at later ⊢
        exact .group opens inner closes later

end SensorLog.Wire
