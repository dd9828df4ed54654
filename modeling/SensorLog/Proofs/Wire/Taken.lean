import Mathlib
import SensorLog.Wire.Value

/-!
# What a reader takes

A reader that succeeds has taken some bytes off the front of its input, and takes the same bytes with the same
answer whatever stands behind them. This holds of numbers, keys, words and all that is passed over; for a packed
run, which is read from all of the input, the place where it ends is counted from behind (`readPacked_taken`).
-/

namespace SensorLog.Wire

/-- A reader takes these bytes off the front of any input and answers with this value. -/
def Takes {α ε : Type} (read : Bytes → Except ε (α × Bytes)) (taken : Bytes) (value : α) : Prop :=
  ∀ behind, read (taken ++ behind) = .ok (value, behind)

/-- These bytes are passed over at the front of any input. -/
def Passes {ε : Type} (skip : Bytes → Except ε Bytes) (taken : Bytes) : Prop :=
  ∀ behind, skip (taken ++ behind) = .ok behind

variable {input rest : Bytes}

/-! ## Numbers and keys -/

theorem readGroups_taken {room n : Nat} (read : readGroups room input = .ok (n, rest)) :
    ∃ taken, input = taken ++ rest ∧ Takes (readGroups room) taken n := by
  induction room generalizing n input with
  | zero => cases read
  | succ room ih =>
      cases input with
      | nil => cases read
      | cons b tail =>
          rw [readGroups] at read
          split at read
          · rename_i low
            split at read
            · cases read
            · rename_i one
              cases read
              refine ⟨[b], rfl, fun behind => ?_⟩
              simp only [List.singleton_append, readGroups, if_pos low, if_neg one]
          · rename_i high
            split at read
            · cases read
            · rename_i later
              cases read
              obtain ⟨taken, rfl, takes⟩ := ih later
              refine ⟨b :: taken, rfl, fun behind => ?_⟩
              simp only [List.cons_append, readGroups, if_neg high, takes behind]

theorem readVarint_taken {n : Nat} (read : readVarint input = .ok (n, rest)) :
    ∃ taken, input = taken ++ rest ∧ Takes readVarint taken n :=
  readGroups_taken read

theorem readKey_taken {key : Key} (read : readKey input = .ok (key, rest)) :
    ∃ taken, input = taken ++ rest ∧ Takes readKey taken key := by
  unfold readKey at read
  split at read
  · cases read
  · rename_i number
    split at read
    · cases read
    · rename_i known
      cases read
      obtain ⟨taken, rfl, takes⟩ := readVarint_taken number
      refine ⟨taken, rfl, fun behind => ?_⟩
      simp only [readKey, takes behind, known]

/-! ## Words -/

theorem readWord_taken {wire : WireType} {word : UInt32} (read : readWord wire input = .ok (word, rest)) :
    ∃ taken, input = taken ++ rest ∧ Takes (readWord wire) taken word := by
  unfold readWord at read
  split at read
  · rename_i varint
    split at read
    · cases read
    · rename_i number
      cases read
      obtain ⟨taken, rfl, takes⟩ := readVarint_taken number
      refine ⟨taken, rfl, fun behind => ?_⟩
      simp only [readWord, if_pos varint, takes behind]
  · cases read

/-- A packed run takes one more number. -/
theorem readPacked_of_number {left n : Nat} (more : left < input.length)
    (number : readVarint input = .ok (n, rest)) :
    readPacked left input = match readPacked left rest with
      | .error cause => .error cause
      | .ok (words, rest') => .ok (UInt32.ofNat n :: words, rest') := by
  rw [readPacked, if_pos more]
  split
  · rename_i failed
    rw [number] at failed
    cases failed
  · rename_i found
    rw [number] at found
    cases found
    rfl

/-- A packed run that ends where `left` bytes remain ends behind the same bytes of any input. Without words it
    takes nothing. -/
theorem readPacked_taken {left : Nat} {words : List UInt32} (read : readPacked left input = .ok (words, rest)) :
    ∃ taken, input = taken ++ rest ∧ (words = [] → taken = []) ∧
      ∀ behind, readPacked behind.length (taken ++ behind) = .ok (words, behind) := by
  fun_induction readPacked left input generalizing words with
  | case1 => cases read
  | case2 => cases read
  | case3 input _ n front number _ words back later ih =>
      cases read
      obtain ⟨first, rfl, takes⟩ := readVarint_taken number
      obtain ⟨taken, rfl, -, run⟩ := ih later
      refine ⟨first ++ taken, (List.append_assoc _ _ _).symm, fun none => absurd none (List.cons_ne_nil _ _),
        fun behind => ?_⟩
      have number := takes (taken ++ behind)
      have shorter := readVarint_length number
      have more : behind.length < (first ++ (taken ++ behind)).length := by
        rw [List.length_append] at shorter
        omega
      rw [List.append_assoc, readPacked_of_number more number]
      simp only [run behind]
  | case4 input _ exact' =>
      cases read
      refine ⟨[], rfl, fun _ => rfl, fun behind => ?_⟩
      rw [List.nil_append, readPacked, if_neg (Nat.lt_irrefl _), if_pos rfl]
  | case5 => cases read

theorem readWords_taken {wire : WireType} {words : List UInt32}
    (read : readWords wire input = .ok (words, rest)) :
    ∃ taken, input = taken ++ rest ∧ Takes (readWords wire) taken words := by
  unfold readWords at read
  split at read
  · rename_i packed
    split at read
    · cases read
    · rename_i size front number
      split at read
      · cases read
      · rename_i enough
        have ends := readPacked_length read
        obtain ⟨first, rfl, takes⟩ := readVarint_taken number
        obtain ⟨taken, rfl, -, run⟩ := readPacked_taken read
        refine ⟨first ++ taken, (List.append_assoc _ _ _).symm, fun behind => ?_⟩
        -- The announced size is that of the bytes taken.
        rw [List.length_append] at ends enough
        have room : ¬ (taken ++ behind).length < size := by
          rw [List.length_append]
          omega
        have left : (taken ++ behind).length - size = behind.length := by
          rw [List.length_append]
          omega
        simp only [readWords, if_pos packed, List.append_assoc, takes (taken ++ behind), if_neg room, left, run behind]
  · rename_i single
    split at read
    · cases read
    · rename_i word
      cases read
      obtain ⟨taken, rfl, takes⟩ := readWord_taken word
      refine ⟨taken, rfl, fun behind => ?_⟩
      simp only [readWords, if_neg single, takes behind]

/-! ## What is passed over -/

theorem skipBytes_append (content rest : Bytes) : skipBytes content.length (content ++ rest) = .ok rest := by
  rw [skipBytes, if_neg (by rw [List.length_append]; omega), List.drop_left]

theorem skipBytes_taken {n : Nat} (skipped : skipBytes n input = .ok rest) :
    ∃ taken, input = taken ++ rest ∧ Passes (skipBytes n) taken := by
  unfold skipBytes at skipped
  split at skipped
  · cases skipped
  · rename_i enough
    cases skipped
    have length : (input.take n).length = n := by
      rw [List.length_take]
      omega
    refine ⟨input.take n, (List.take_append_drop n input).symm, fun behind => ?_⟩
    have passed := skipBytes_append (input.take n) behind
    rwa [length] at passed

theorem skipPlain_taken {wire : WireType} (skipped : skipPlain wire input = .ok rest) :
    ∃ taken, input = taken ++ rest ∧ Passes (skipPlain wire) taken := by
  cases wire with
  | varint =>
      simp only [skipPlain] at skipped
      split at skipped
      · cases skipped
      · rename_i number
        cases skipped
        obtain ⟨taken, rfl, takes⟩ := readVarint_taken number
        refine ⟨taken, rfl, fun behind => ?_⟩
        simp only [skipPlain, takes behind]
  | sixtyFourBit => exact skipBytes_taken skipped
  | thirtyTwoBit => exact skipBytes_taken skipped
  | lengthDelimited =>
      simp only [skipPlain] at skipped
      split at skipped
      · cases skipped
      · rename_i size front number
        obtain ⟨first, rfl, takes⟩ := readVarint_taken number
        obtain ⟨taken, rfl, passes⟩ := skipBytes_taken skipped
        refine ⟨first ++ taken, (List.append_assoc _ _ _).symm, fun behind => ?_⟩
        simp only [skipPlain, List.append_assoc, takes (taken ++ behind), passes behind]
  | startGroup =>
      cases skipped
      exact ⟨[], rfl, fun behind => rfl⟩
  | endGroup => cases skipped

/-- A step inside groups, by the key that it finds. -/
theorem skipGroups_of_key {key : Key} {input rest : Bytes} (found : readKey input = .ok (key, rest)) {tag : Nat}
    {outer : List Nat} :
    skipGroups (tag :: outer) input =
      if key.wire = .endGroup then
        if key.tag = tag then skipGroups outer rest else .error .unexpectedEndGroup
      else if maxDepth ≤ (tag :: outer).length then .error .tooDeep
      else if key.wire = .startGroup then skipGroups (key.tag :: tag :: outer) rest
      else match skipPlain key.wire rest with
        | .error cause => .error cause
        | .ok rest' => skipGroups (tag :: outer) rest' := by
  rw [skipGroups]
  split
  · rename_i failed
    rw [found] at failed
    cases failed
  · rename_i read
    rw [found] at read
    cases read
    split
    · rfl
    · split
      · rfl
      · split
        · rfl
        · split <;> rename_i skipped <;> simp only [skipped]

theorem skipGroups_taken {groups : List Nat} (skipped : skipGroups groups input = .ok rest) :
    ∃ taken, input = taken ++ rest ∧ Passes (skipGroups groups) taken := by
  fun_induction skipGroups groups input with
  | case1 =>
      cases skipped
      exact ⟨[], rfl, fun behind => by rw [List.nil_append, skipGroups]⟩
  | case2 => cases skipped
  | case3 input outer key front found _ closes ih =>
      obtain ⟨first, rfl, takes⟩ := readKey_taken found
      obtain ⟨taken, rfl, passes⟩ := ih skipped
      refine ⟨first ++ taken, (List.append_assoc _ _ _).symm, fun behind => ?_⟩
      rw [List.append_assoc, skipGroups_of_key (takes _), if_pos closes, if_pos rfl, passes behind]
  | case4 => cases skipped
  | case5 => cases skipped
  | case6 input tag outer key front found _ other shallow opens ih =>
      obtain ⟨first, rfl, takes⟩ := readKey_taken found
      obtain ⟨taken, rfl, passes⟩ := ih skipped
      refine ⟨first ++ taken, (List.append_assoc _ _ _).symm, fun behind => ?_⟩
      rw [List.append_assoc, skipGroups_of_key (takes _), if_neg other, if_neg shallow, if_pos opens, passes behind]
  | case7 => cases skipped
  | case8 input tag outer key front found _ other shallow plain back value _ ih =>
      obtain ⟨first, rfl, takes⟩ := readKey_taken found
      obtain ⟨middle, rfl, skips⟩ := skipPlain_taken value
      obtain ⟨taken, rfl, passes⟩ := ih skipped
      refine ⟨first ++ (middle ++ taken), by simp only [List.append_assoc], fun behind => ?_⟩
      rw [List.append_assoc, skipGroups_of_key (takes _), if_neg other, if_neg shallow, if_neg plain,
        List.append_assoc, skips]
      exact passes behind

theorem skip_taken {key : Key} (skipped : skip key input = .ok rest) :
    ∃ taken, input = taken ++ rest ∧ Passes (skip key) taken := by
  unfold skip at skipped
  split at skipped
  · rename_i opens
    obtain ⟨taken, whole, passes⟩ := skipGroups_taken skipped
    exact ⟨taken, whole, fun behind => by rw [skip, if_pos opens, passes behind]⟩
  · rename_i plain
    obtain ⟨taken, whole, passes⟩ := skipPlain_taken skipped
    exact ⟨taken, whole, fun behind => by rw [skip, if_neg plain, passes behind]⟩

end SensorLog.Wire
