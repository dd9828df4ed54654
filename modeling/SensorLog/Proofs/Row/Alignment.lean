import SensorLog.Proofs.Record.Lookup
import SensorLog.Proofs.Schema.Figures
import SensorLog.Row.Writer
import SensorLog.Schema.Builtin

/-!
# Aligned text

A column is padded to a width, and a text that is longer pushes all that follows to the right. So cells start where
their columns do exactly if every cell but the last is within the width (`startOf_eq_iff`), and neighbours are read
apart exactly if the first is padded or the second has a blank in front (`Row.separate_iff`).
-/

namespace SensorLog

namespace RowFormat

/-- Where a cell starts in the line that some texts are set in. -/
def startOf (texts : List String) (i : Nat) : Nat :=
  (String.join ((texts.take i).map pad)).length

theorem startOf_zero (texts : List String) : startOf texts 0 = 0 := rfl

theorem startOf_cons_succ (text : String) (texts : List String) (i : Nat) :
    startOf (text :: texts) (i + 1) = max columnWidth text.length + startOf texts i := by
  rw [startOf, List.take_succ_cons, List.map_cons, String.join_cons, String.length_append, pad,
    Text.length_padRight]
  rfl

/-- All cells start at multiples of the width exactly if no cell pushes the next one to the right. -/
theorem startOf_eq_iff (texts : List String) :
    (∀ i < texts.length, startOf texts i = columnWidth * i) ↔ ∀ text ∈ texts.dropLast, text.length ≤ columnWidth := by
  induction texts with
  | nil => exact iff_of_true nofun nofun
  | cons text rest ih =>
      cases rest with
      | nil =>
          refine iff_of_true ?_ nofun
          intro i inside
          rw [Nat.lt_one_iff.1 inside]
          exact startOf_zero _
      | cons next rest =>
          rw [List.dropLast_cons_cons, List.forall_mem_cons, ← ih]
          constructor
          · intro placed
            have second := placed 1 (by simp)
            rw [startOf_cons_succ, startOf_zero] at second
            refine ⟨by omega, ?_⟩
            intro i inside
            have shifted := placed (i + 1) (Nat.succ_lt_succ inside)
            rw [startOf_cons_succ] at shifted
            rw [Nat.mul_succ] at shifted
            omega
          · rintro ⟨within, placed⟩ i inside
            cases i with
            | zero => exact startOf_zero _
            | succ i =>
                rw [startOf_cons_succ, placed i (Nat.lt_of_succ_lt_succ inside), Nat.max_eq_left within, Nat.mul_succ,
                  Nat.add_comm]

/-- The texts of a row's values. -/
def cellTexts (r : Registry) (row : Row) : List String :=
  (row.columns.zip row.values).map fun cell => cellText r cell.1 cell.2

/-- The lines of a row are the names, the units and the values, each set in cells. -/
theorem row_text (r : Registry) (row : Row) :
    text.row r row =
      (if row.header then
        line (String.join (row.columns.map pad)) ++ line (String.join ((row.columns.map (unitText r)).map pad))
      else "") ++ line (String.join ((cellTexts r row).map pad)) := by
  rw [cellTexts, List.map_map, List.map_map]
  rfl

end RowFormat

/-- Whether a value is written with a minus sign. -/
def Value.isNegative (value : Value) : Bool :=
  (Binary64.ofFloat value.toFloat).isNegative

namespace Field

/-- The number that the digits of a value make in a column of the field, the point left out. -/
def shown (f : Field) (value : Value) : Nat :=
  f.text.shown (.ofFloat value.toFloat)

/-- How many digits are within a column of the field, beside the sign and the point. -/
def room (f : Field) : Nat :=
  RowFormat.columnWidth - 1 - f.text.point

/-- The names and units of all columns are within their width, and so are small numbers. -/
theorem within_builtin : ∀ f ∈ builtin,
    (∀ column ∈ f.columns, column.length ≤ RowFormat.columnWidth) ∧
      ("(" ++ f.unit ++ ")").length ≤ RowFormat.columnWidth ∧ f.text.width + 1 ≤ RowFormat.columnWidth ∧
      f.text.precision + f.text.point + 2 < RowFormat.columnWidth := by
  decide +kernel

/-- In all columns but that of the timestamp the figures alone are as wide as the format. -/
theorem narrow_builtin : ∀ f ∈ builtin, f.name ≠ timestampName →
    f.text.width ≤ min 3 (f.text.precision + 1 + f.text.point) + 1 := by
  decide +kernel

end Field

namespace Row

open RowFormat

/-- Names, units and values all start where their columns do. -/
def Aligned (r : Registry) (row : Row) : Prop :=
  ∀ i < row.columns.length, startOf row.columns i = columnWidth * i ∧
    startOf (row.columns.map (unitText r)) i = columnWidth * i ∧ startOf (cellTexts r row) i = columnWidth * i

/-- The line of values is read back by splitting it at its blanks: one word per column, which is all that can be seen
    of the value there. -/
def Separate (r : Registry) (row : Row) : Prop :=
  Text.words (String.join ((cellTexts r row).map pad)).toList =
    (cellTexts r row).map fun text => text.toList.filter (· ≠ ' ')

instance (r : Registry) (row : Row) : Decidable (row.Aligned r) :=
  inferInstanceAs (Decidable (∀ i < row.columns.length, _ = _ ∧ _ = _ ∧ _ = _))

instance (r : Registry) (row : Row) : Decidable (row.Separate r) :=
  inferInstanceAs (Decidable (_ = _))

/-- The cells of a row. -/
def cells (row : Row) : List (String × Value) :=
  row.columns.zip row.values

section Builtin

variable {row : Row} {owner : String → Field}
  (owned : ∀ column ∈ row.columns, Registry.builtin.fieldOfColumn column = .ok (owner column))

include owned

theorem builtin_of_owned {cell : String × Value} (member : cell ∈ row.cells) :
    owner cell.1 ∈ Field.builtin ∧ cell.1 ∈ (owner cell.1).columns :=
  Registry.fieldOfColumn_eq_ok_iff.1 (owned cell.1 (List.of_mem_zip member).1)

theorem cellTexts_eq :
    cellTexts .builtin row = row.cells.map fun cell => (owner cell.1).text.write cell.2.toFloat := by
  refine List.map_congr_left fun cell member => ?_
  rw [cellText, owned cell.1 (List.of_mem_zip member).1]

theorem length_cell_le_iff {cell : String × Value} (member : cell ∈ row.cells) {n : Nat} (least : 9 ≤ n) :
    ((owner cell.1).text.write cell.2.toFloat).length ≤ n ↔
      (owner cell.1).shown cell.2 < 10 ^ (n - 1 - (owner cell.1).text.point) := by
  obtain ⟨-, -, narrow, small⟩ := Field.within_builtin _ (builtin_of_owned owned member).1
  unfold columnWidth at narrow small
  exact (owner cell.1).text.length_write_le_iff (by omega) (by omega) (by omega) _

/-- A row is aligned exactly if every value but the last has no more digits than there is room for. -/
theorem aligned_iff (filled : row.values.length = row.columns.length) :
    row.Aligned .builtin ↔
      ∀ cell ∈ row.cells.dropLast, (owner cell.1).shown cell.2 < 10 ^ (owner cell.1).room := by
  have names : ∀ i < row.columns.length, startOf row.columns i = columnWidth * i := by
    refine (startOf_eq_iff _).2 fun column member => ?_
    have known := List.mem_of_mem_dropLast member
    obtain ⟨builtin, owns⟩ := Registry.fieldOfColumn_eq_ok_iff.1 (owned column known)
    exact (Field.within_builtin _ builtin).1 column owns
  have units : ∀ i < row.columns.length, startOf (row.columns.map (unitText .builtin)) i = columnWidth * i := by
    have fits := (startOf_eq_iff (row.columns.map (unitText .builtin))).2 fun unit member => by
      obtain ⟨column, known, rfl⟩ := List.mem_map.1 (List.mem_of_mem_dropLast member)
      rw [unitText, owned column known]
      exact (Field.within_builtin _ (Registry.fieldOfColumn_eq_ok_iff.1 (owned column known)).1).2.1
    rwa [List.length_map] at fits
  have count : (cellTexts .builtin row).length = row.columns.length := by
    rw [cellTexts, List.length_map, List.length_zip, filled, Nat.min_self]
  have values := startOf_eq_iff (cellTexts .builtin row)
  rw [count, cellTexts_eq owned, ← List.map_dropLast, List.forall_mem_map, ← cellTexts_eq owned] at values
  have digits : (∀ cell ∈ row.cells.dropLast, ((owner cell.1).text.write cell.2.toFloat).length ≤ columnWidth) ↔
      ∀ cell ∈ row.cells.dropLast, (owner cell.1).shown cell.2 < 10 ^ (owner cell.1).room :=
    forall₂_congr fun cell member =>
      length_cell_le_iff owned (List.mem_of_mem_dropLast member) (by decide)
  rw [← digits, ← values]
  exact ⟨fun aligned i inside => (aligned i inside).2.2,
    fun placed i inside => ⟨names i inside, units i inside, placed i inside⟩⟩

/-- A value as it stands on its line. -/
def placed (owner : String → Field) (cell : String × Value) : Text.Cell :=
  (owner cell.1).text.cell cell.2.toFloat
    (columnWidth - ((owner cell.1).text.write cell.2.toFloat).length)

theorem line_eq :
    (String.join ((cellTexts .builtin row).map pad)).toList = Text.Cell.line (row.cells.map (placed owner)) := by
  rw [cellTexts_eq owned, List.map_map, String.toList_join, List.flatMap_map, Text.Cell.line, List.flatMap_map]
  refine List.flatMap_congr fun cell _ => ?_
  show (pad _).toList = _
  rw [pad, Text.padRight, Text.blanks, String.toList_append, String.toList_ofList, TextFormat.toList_write,
    List.append_assoc]
  rfl

theorem visible_eq :
    ((cellTexts .builtin row).map fun text => text.toList.filter (· ≠ ' ')) =
      (row.cells.map (placed owner)).map Text.Cell.word := by
  rw [cellTexts_eq owned, List.map_map, List.map_map]
  refine List.map_congr_left fun cell _ => ?_
  rw [Function.comp_apply, Function.comp_apply, TextFormat.filter_write]
  rfl

/-- A row is read back exactly if no value with all digits that there is room for, or one less, stands ahead of a
    minus sign. -/
theorem separate_iff
    (stamped : ∀ cell ∈ row.cells, (owner cell.1).name = timestampName → cell.2.isNegative = false) :
    row.Separate .builtin ↔ row.cells.IsChain fun cell next =>
      (owner cell.1).shown cell.2 < 10 ^ ((owner cell.1).room - 1) ∨ next.2.isNegative = false := by
  rw [Separate, line_eq owned, visible_eq owned, Text.Cell.words_line_iff, List.isChain_map]
  refine List.IsChain.iff_of_mem_imp fun cell next member member' => or_congr ?_ ?_
  · have within := length_cell_le_iff owned member (Nat.le_refl 9)
    have digits : (owner cell.1).room - 1 = 9 - 1 - (owner cell.1).text.point := Nat.sub_right_comm _ _ _
    rw [digits, ← within]
    exact Nat.sub_pos_iff_lt.trans Nat.lt_succ_iff
  · by_cases stamp : (owner next.1).name = timestampName
    · have unsigned := stamped next member' stamp
      exact iff_of_true ((owner next.1).text.indent_pos_of_nonnegative unsigned) unsigned
    · exact (owner next.1).text.indent_pos_iff
        (Field.narrow_builtin _ (builtin_of_owned owned member').1 stamp) next.2.toFloat

end Builtin

end Row

end SensorLog
