import SensorLog.Proofs.Bytes.HexExact

/-!
# Hexadecimal text is read back

`Hex.Spells` says that characters are the digits of bytes, two for each byte in either case, with spaces and
tabs anywhere. `Hex.read` gives the bytes of every such text (`read_of_spells`), and `Hex.encode` writes one.
-/

namespace SensorLog.Hex

/-- A character that may stand between digits. -/
def isGap (c : Char) : Bool :=
  c == ' ' || c == '\t'

/-- The values of the two digits of a byte. -/
def halves (b : UInt8) : List Nat :=
  [b.toNat / 16, b.toNat % 16]

/-- The characters are digits of the bytes, with gaps. -/
def Spells (bytes : Bytes) (cs : List Char) : Prop :=
  List.Forall₂ (fun n c => value? c = some n) (bytes.flatMap halves) (cs.filter (!isGap ·))

theorem isGap_of_value? {c : Char} {n : Nat} (digit : value? c = some n) : isGap c = false := by
  rw [isGap, Bool.or_eq_false_iff, beq_eq_false_iff_ne, beq_eq_false_iff_ne]
  exact ⟨ne_of_value? digit (by decide), ne_of_value? digit (by decide)⟩

/-- Every character of a text that spells bytes is a gap or a digit. -/
theorem Spells.known {bytes : Bytes} {cs : List Char} (spells : Spells bytes cs) :
    ∀ c ∈ cs, isGap c = true ∨ ∃ n, value? c = some n := by
  intro c member
  by_cases gap : isGap c = true
  · exact .inl gap
  · have kept : c ∈ cs.filter (!isGap ·) := by
      simp only [Bool.not_eq_true] at gap
      exact List.mem_filter.2 ⟨member, by rw [gap]; rfl⟩
    obtain ⟨i, inside, rfl⟩ := List.mem_iff_getElem.1 kept
    have size := List.Forall₂.length_eq spells
    exact .inr ⟨_, List.Forall₂.get spells (size ▸ inside) inside⟩

/-- Gaps are the only blanks of such a text. -/
theorem Spells.solid_eq {bytes : Bytes} {cs : List Char} (spells : Spells bytes cs) :
    solid (String.ofList cs) = cs.filter (!isGap ·) := by
  rw [solid, String.toList_ofList]
  refine List.filter_congr fun c member => ?_
  rcases spells.known c member with gap | ⟨n, digit⟩
  · rw [gap]
    rcases Bool.or_eq_true_iff.1 gap with space | tab
    · rw [beq_iff_eq.1 space]
      decide
    · rw [beq_iff_eq.1 tab]
      decide
  · rw [isSpace_of_value? digit, isGap_of_value? digit]

/-- The digits of bytes are pairs, and their values are the bytes. -/
theorem pairs_of_digits {bytes : Bytes} {cs : List Char}
    (digits : List.Forall₂ (fun n c => value? c = some n) (bytes.flatMap halves) cs) :
    Paired cs ∧ pairValues cs = bytes := by
  induction bytes generalizing cs with
  | nil =>
      cases digits
      exact ⟨trivial, rfl⟩
  | cons b rest ih =>
      cases digits with
      | cons high later =>
          cases later with
          | cons low later =>
              obtain ⟨paired, values⟩ := ih later
              obtain ⟨one, first⟩ := value?_eq_some_iff.1 high
              obtain ⟨two, second⟩ := value?_eq_some_iff.1 low
              constructor
              · exact ⟨.inl one, two, paired⟩
              · rw [pairValues, values, pairValue, if_neg (ne_of_value? high (by decide)), first, second,
                  Nat.div_add_mod', UInt8.ofNat_toNat]

/-- Bytes are read back from every text that spells them. -/
theorem read_of_spells {bytes : Bytes} {cs : List Char} (spells : Spells bytes cs) :
    read (String.ofList cs) = .ok bytes := by
  obtain ⟨paired, values⟩ := pairs_of_digits spells
  rw [read_eq_ok_iff, spells.solid_eq]
  exact ⟨paired, values.symm⟩

theorem Spells.append {first second : Bytes} {cs ds : List Char} (front : Spells first cs)
    (back : Spells second ds) : Spells (first ++ second) (cs ++ ds) := by
  unfold Spells
  rw [List.flatMap_append, List.filter_append]
  exact List.rel_append front back

theorem spells_ofByte (b : UInt8) : Spells [b] (ofByte b) := by
  have bound := UInt8.toNat_lt b
  have high := value?_digit (n := b.toNat / 16) (by omega)
  have low := value?_digit (n := b.toNat % 16) (by omega)
  have kept : (ofByte b).filter (!isGap ·) = ofByte b := by
    simp only [ofByte, List.filter_cons, isGap_of_value? high, isGap_of_value? low, Bool.not_false, if_true,
      List.filter_nil]
  rw [Spells, kept, List.flatMap_singleton]
  exact .cons high (.cons low .nil)

/-- The lowercase digits without gaps are such a text. -/
theorem spells_encode (bytes : Bytes) : Spells bytes (encode bytes).toList := by
  rw [encode, String.toList_ofList]
  induction bytes with
  | nil => exact .nil
  | cons b rest ih =>
      rw [List.flatMap_cons]
      exact (spells_ofByte b).append ih

/-! ## Either case -/

/-- A digit of either case is the lowercase digit of its value, or its capital. -/
theorem value?_eq_some_iff_toLower {c : Char} {n : Nat} (small : n < 16) :
    value? c = some n ↔ c.toLower = digit n := by
  have numeral : ∀ m : Fin 16, numerals[m.val]? = some (digit m) := by decide
  have unique : ∀ m : Fin 16, numerals.idxOf (digit m) = m := by decide
  have here := numeral ⟨n, small⟩
  rw [value?_eq_some_iff, isDigit, place, List.contains_iff_mem]
  constructor
  · rintro ⟨member, rfl⟩
    rw [List.getElem?_idxOf member] at here
    exact Option.some.inj here
  · intro same
    rw [same]
    exact ⟨List.mem_of_getElem? here, unique ⟨n, small⟩⟩

/-- What spells bytes are the characters that the bytes are written with, in either case, and gaps. -/
theorem spells_iff {bytes : Bytes} {cs : List Char} :
    Spells bytes cs ↔ (cs.filter (!isGap ·)).map Char.toLower = (encode bytes).toList := by
  have written : (encode bytes).toList = (bytes.flatMap halves).map digit := by
    rw [encode, String.toList_ofList, List.map_flatMap]
    rfl
  have small : ∀ n ∈ bytes.flatMap halves, n < 16 := by
    intro n member
    obtain ⟨b, -, half⟩ := List.mem_flatMap.1 member
    have bound := b.toNat_lt
    rcases List.mem_pair.1 half with rfl | rfl <;> omega
  rw [Spells, written]
  generalize cs.filter (!isGap ·) = ds
  generalize bytes.flatMap halves = values at small ⊢
  induction values generalizing ds with
  | nil => rw [List.forall₂_nil_left_iff, List.map_nil, List.map_eq_nil_iff]
  | cons n rest ih =>
      obtain ⟨first, others⟩ := List.forall_mem_cons.1 small
      cases ds with
      | nil => simp
      | cons c later =>
          rw [List.forall₂_cons, List.map_cons, List.map_cons, List.cons.injEq]
          exact and_congr (value?_eq_some_iff_toLower first) (ih later others)

end SensorLog.Hex
