import SensorLog.Wire.Key

/-!
# Values behind a key

Number fields are read as 32-bit words: `readWord` takes one, `readWords` takes one or, in packed
form, many. Fields that nobody asked for are passed over by `skip`, which keeps the tags of the
groups it is inside of, innermost first.
-/

namespace SensorLog.Wire

/-- One number, of which the low 32 bits count. -/
def readWord (wire : WireType) (input : Bytes) : Except WireError (UInt32 × Bytes) :=
  if wire = .varint then
    match readVarint input with
    | .error e => .error e
    | .ok (n, rest) => .ok (UInt32.ofNat n, rest)
  else .error (.notVarint wire)

/-- Numbers up to the place where `left` bytes of the input remain. Each is read from all of the
    input, so the last one may turn out to reach past that place. -/
def readPacked (left : Nat) (input : Bytes) : Except WireError (List UInt32 × Bytes) :=
  if left < input.length then
    match h : readVarint input with
    | .error e => .error e
    | .ok (n, rest) =>
      have := readVarint_length h
      match readPacked left rest with
      | .error e => .error e
      | .ok (words, rest') => .ok (UInt32.ofNat n :: words, rest')
  else if input.length = left then .ok ([], input)
  else .error .lengthExceeded
termination_by input.length

/-- The numbers of one occurrence of a repeated field: a packed run or a single number. -/
def readWords (wire : WireType) (input : Bytes) : Except WireError (List UInt32 × Bytes) :=
  if wire = .lengthDelimited then
    match readVarint input with
    | .error e => .error e
    | .ok (size, rest) =>
      if rest.length < size then .error .underflow else readPacked (rest.length - size) rest
  else
    match readWord wire input with
    | .error e => .error e
    | .ok (word, rest) => .ok ([word], rest)

/-- The input without its first `n` bytes. -/
def skipBytes (n : Nat) (input : Bytes) : Except WireError Bytes :=
  if input.length < n then .error .underflow else .ok (input.drop n)

/-- Passes over a value that is not a group. -/
def skipPlain (wire : WireType) (input : Bytes) : Except WireError Bytes :=
  match wire with
  | .varint =>
    match readVarint input with
    | .error e => .error e
    | .ok (_, rest) => .ok rest
  | .thirtyTwoBit => skipBytes 4 input
  | .sixtyFourBit => skipBytes 8 input
  | .lengthDelimited =>
    match readVarint input with
    | .error e => .error e
    | .ok (size, rest) => skipBytes size rest
  | .startGroup => .ok input
  | .endGroup => .error .unexpectedEndGroup

/-- The number of groups that a skipped field may be inside of, itself included. -/
def maxDepth : Nat := 100

theorem skipBytes_length {n : Nat} {input rest : Bytes} (h : skipBytes n input = .ok rest) :
    rest.length ≤ input.length := by
  unfold skipBytes at h
  split at h
  · simp at h
  · simp only [Except.ok.injEq] at h
    subst h
    simp only [List.length_drop]
    omega

theorem skipPlain_length {wire : WireType} {input rest : Bytes}
    (h : skipPlain wire input = .ok rest) : rest.length ≤ input.length := by
  unfold skipPlain at h
  split at h
  · split at h
    · simp at h
    · rename_i hv
      simp only [Except.ok.injEq] at h
      subst h
      exact Nat.le_of_lt (readVarint_length hv)
  · exact skipBytes_length h
  · exact skipBytes_length h
  · split at h
    · simp at h
    · rename_i hv
      have := skipBytes_length h
      have := readVarint_length hv
      omega
  · simp only [Except.ok.injEq] at h
    subst h
    exact Nat.le_refl _
  · simp at h

/-- Passes over the rest of the groups with the given tags, innermost first. -/
def skipGroups (groups : List Nat) (input : Bytes) : Except WireError Bytes :=
  match groups with
  | [] => .ok input
  | tag :: outer =>
    match h : readKey input with
    | .error e => .error e
    | .ok (key, rest) =>
      have := readKey_length h
      if key.wire = .endGroup then
        if key.tag = tag then skipGroups outer rest else .error .unexpectedEndGroup
      else if maxDepth ≤ (tag :: outer).length then .error .tooDeep
      else if key.wire = .startGroup then skipGroups (key.tag :: tag :: outer) rest
      else
        match h' : skipPlain key.wire rest with
        | .error e => .error e
        | .ok rest' =>
          have := skipPlain_length h'
          skipGroups (tag :: outer) rest'
termination_by input.length

/-- Passes over the value of a field. -/
def skip (key : Key) (input : Bytes) : Except WireError Bytes :=
  if key.wire = .startGroup then skipGroups [key.tag] input else skipPlain key.wire input

theorem readWord_length {wire : WireType} {input rest : Bytes} {word : UInt32}
    (h : readWord wire input = .ok (word, rest)) : rest.length < input.length := by
  unfold readWord at h
  split at h
  · split at h
    · simp at h
    · rename_i hv
      simp only [Except.ok.injEq, Prod.mk.injEq] at h
      obtain ⟨-, rfl⟩ := h
      exact readVarint_length hv
  · simp at h

/-- A packed run ends where it was announced to end. -/
theorem readPacked_length {left : Nat} {input rest : Bytes} {words : List UInt32}
    (h : readPacked left input = .ok (words, rest)) : rest.length = left := by
  fun_induction readPacked left input generalizing words with
  | case1 => simp at h
  | case2 => simp at h
  | case3 input _ n rest₁ hv _ words₁ rest₂ hr ih =>
    simp only [Except.ok.injEq, Prod.mk.injEq] at h
    obtain ⟨-, rfl⟩ := h
    exact ih hr
  | case4 input _ heq =>
    simp only [Except.ok.injEq, Prod.mk.injEq] at h
    obtain ⟨-, rfl⟩ := h
    exact heq
  | case5 => simp at h

theorem readWords_length {wire : WireType} {input rest : Bytes} {words : List UInt32}
    (h : readWords wire input = .ok (words, rest)) : rest.length < input.length := by
  unfold readWords at h
  split at h
  · split at h
    · simp at h
    · rename_i hv
      split at h
      · simp at h
      · have := readPacked_length h
        have := readVarint_length hv
        omega
  · split at h
    · simp at h
    · rename_i hw
      simp only [Except.ok.injEq, Prod.mk.injEq] at h
      obtain ⟨-, rfl⟩ := h
      exact readWord_length hw

theorem skipGroups_length {groups : List Nat} {input rest : Bytes}
    (h : skipGroups groups input = .ok rest) : rest.length ≤ input.length := by
  fun_induction skipGroups groups input with
  | case1 =>
    simp only [Except.ok.injEq] at h
    subst h
    exact Nat.le_refl _
  | case2 => simp at h
  | case3 => rename_i ih; have := ih h; omega
  | case4 => simp at h
  | case5 => simp at h
  | case6 => rename_i ih; have := ih h; omega
  | case7 => simp at h
  | case8 => rename_i ih; have := ih h; omega

theorem skip_length {key : Key} {input rest : Bytes} (h : skip key input = .ok rest) :
    rest.length ≤ input.length := by
  unfold skip at h
  split at h
  · exact skipGroups_length h
  · exact skipPlain_length h

end SensorLog.Wire
