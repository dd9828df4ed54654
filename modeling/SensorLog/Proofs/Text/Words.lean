import Mathlib
import SensorLog.Text.Align

/-!
# The words of a line

A line that is set in cells is read by splitting it at its blanks. The words that are found are those of the cells
exactly if no two neighbours touch (`words_line_iff`): where a cell has no blank at its end and the next one has none
in front, two words are read as one, and nothing makes up for it.
-/

namespace SensorLog.Text

/-- The words of a text: what stands between its blanks. -/
def words (cs : List Char) : List (List Char) :=
  (cs.splitOnP (· == ' ')).filter (· ≠ [])

/-- Everything about words follows from their ending at a blank. -/
theorem words_append_blank (before after : List Char) :
    words (before ++ ' ' :: after) = words before ++ words after := by
  unfold words
  rw [List.splitOnP_append_cons before after rfl, List.filter_append]

theorem words_nil : words [] = [] := rfl

theorem words_cons_blank (cs : List Char) : words (' ' :: cs) = words cs :=
  words_append_blank [] cs

theorem words_blanks_append (n : Nat) (cs : List Char) : words (List.replicate n ' ' ++ cs) = words cs := by
  induction n with
  | zero => rfl
  | succ n ih => rw [List.replicate_succ, List.cons_append, words_cons_blank, ih]

theorem words_of_solid {word : List Char} (some : word ≠ []) (solid : ' ' ∉ word) : words word = [word] := by
  have unsplit : ∀ c ∈ word, (c == ' ') = false := by
    intro c member
    exact beq_false_of_ne fun blank => solid (blank ▸ member)
  rw [words, List.splitOnP_eq_singleton unsplit]
  exact List.filter_cons_of_pos (by simpa using some)

/-- What is put in front of a letter becomes part of the word that begins there. -/
theorem exists_words_append {c : Char} (letter : c ≠ ' ') (cs : List Char) :
    ∃ first rest, ∀ word, ' ' ∉ word → words (word ++ c :: cs) = (word ++ c :: first) :: rest := by
  obtain ⟨first, rest, pieces⟩ := List.exists_cons_of_ne_nil (List.splitOnP_ne_nil (· == ' ') cs)
  have split (word : List Char) (solid : ' ' ∉ word) :
      (word ++ c :: cs).splitOnP (· == ' ') = (word ++ c :: first) :: rest := by
    induction word with
    | nil => simp [List.splitOnP_cons_eq_if_modifyHead, letter, pieces]
    | cons d word ih =>
        rw [List.mem_cons, not_or] at solid
        simp [List.splitOnP_cons_eq_if_modifyHead, Ne.symm solid.1, ih solid.2]
  refine ⟨first, rest.filter (· ≠ []), ?_⟩
  intro word solid
  rw [words, split word solid]
  exact List.filter_cons_of_pos (by simp)

/-- A cell of a line: a word with blanks in front and behind. -/
structure Cell where
  indent : Nat
  word : List Char
  padding : Nat
  some : word ≠ []
  solid : ' ' ∉ word

namespace Cell

/-- The characters of a cell. -/
def chars (c : Cell) : List Char :=
  List.replicate c.indent ' ' ++ (c.word ++ List.replicate c.padding ' ')

/-- A blank stands between the words of two neighbours. -/
def Apart (c next : Cell) : Prop :=
  0 < c.padding ∨ 0 < next.indent

/-- The line that is set in cells. -/
def line (cells : List Cell) : List Char :=
  cells.flatMap chars

/-- A cell that a blank follows, or nothing at all, gives its own word. -/
theorem words_line_of_apart {c : Cell} {cells : List Cell} (apart : ∀ next ∈ cells.head?, c.Apart next) :
    words (line (c :: cells)) = c.word :: words (line cells) := by
  rw [line, List.flatMap_cons, ← line, chars, List.append_assoc, words_blanks_append, List.append_assoc]
  cases padding : c.padding with
  | succ n =>
      rw [List.replicate_succ, List.cons_append, words_append_blank, words_blanks_append,
        words_of_solid c.some c.solid, List.singleton_append]
  | zero =>
      rw [List.replicate_zero, List.nil_append]
      cases cells with
      | nil => rw [line, List.flatMap_nil, List.append_nil, words_of_solid c.some c.solid, words_nil]
      | cons next rest =>
          have indented : 0 < next.indent := by
            rcases apart next rfl with positive | positive
            · omega
            · exact positive
          obtain ⟨n, indent⟩ := Nat.exists_eq_succ_of_ne_zero (Nat.ne_of_gt indented)
          rw [line, List.flatMap_cons, chars, indent, Nat.succ_eq_add_one, List.replicate_succ, List.cons_append,
            List.cons_append, words_append_blank, words_of_solid c.some c.solid, words_cons_blank,
            List.singleton_append]

/-- The words of two neighbours that touch are read as one. -/
theorem length_words_line_of_touching {c next : Cell} {cells : List Cell} (touching : ¬c.Apart next) :
    (words (line (c :: next :: cells))).length = (words (line (next :: cells))).length := by
  obtain ⟨unpadded, unindented⟩ := not_or.1 touching
  rw [Nat.not_lt, Nat.le_zero] at unpadded unindented
  obtain ⟨letter, more, word⟩ := List.exists_cons_of_ne_nil next.some
  have solid : letter ≠ ' ' := by
    rintro rfl
    exact next.solid (word ▸ List.mem_cons_self)
  obtain ⟨first, others, joined⟩ := exists_words_append solid (more ++ (List.replicate next.padding ' ' ++ line cells))
  have after : line (next :: cells) = letter :: (more ++ (List.replicate next.padding ' ' ++ line cells)) := by
    rw [line, List.flatMap_cons, chars, unindented, word, List.replicate_zero, List.nil_append, List.cons_append,
      List.cons_append, List.append_assoc]
    rfl
  have alone := joined [] (List.not_mem_nil)
  have both := joined c.word c.solid
  rw [List.nil_append, List.nil_append] at alone
  rw [line, List.flatMap_cons, ← line, chars, unpadded, List.replicate_zero, List.append_nil, List.append_assoc,
    words_blanks_append, after, both, alone]
  rfl

theorem apart_or_touching (c : Cell) (cells : List Cell) :
    (∀ next ∈ cells.head?, c.Apart next) ∨ ∃ next rest, cells = next :: rest ∧ ¬c.Apart next := by
  cases cells with
  | nil => exact .inl (by simp)
  | cons next rest =>
      by_cases apart : c.Apart next
      · exact .inl (by simpa using apart)
      · exact .inr ⟨next, rest, rfl, apart⟩

theorem length_words_line_le (cells : List Cell) : (words (line cells)).length ≤ cells.length := by
  induction cells with
  | nil => exact Nat.le_refl 0
  | cons c cells ih =>
      rcases c.apart_or_touching cells with apart | ⟨next, rest, rfl, touching⟩
      · rw [words_line_of_apart apart]
        exact Nat.succ_le_succ ih
      · rw [length_words_line_of_touching touching]
        exact Nat.le_succ_of_le ih

/-- The words of a line are those of its cells exactly if a blank stands between any two neighbours. -/
theorem words_line_iff (cells : List Cell) : words (line cells) = cells.map word ↔ cells.IsChain Apart := by
  induction cells with
  | nil => exact ⟨fun _ => .nil, fun _ => rfl⟩
  | cons c cells ih =>
      rw [List.isChain_cons]
      constructor
      · intro same
        rcases c.apart_or_touching cells with apart | ⟨next, rest, rfl, touching⟩
        · rw [words_line_of_apart apart, List.map_cons, List.cons_inj_right] at same
          exact ⟨apart, ih.1 same⟩
        · have length := congrArg List.length same
          rw [length_words_line_of_touching touching, List.length_map] at length
          have few := length_words_line_le (next :: rest)
          rw [length] at few
          exact absurd few (Nat.not_succ_le_self _)
      · rintro ⟨apart, later⟩
        rw [words_line_of_apart apart, ih.2 later, List.map_cons]

end Cell

end SensorLog.Text
