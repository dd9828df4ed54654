import Mathlib
import SensorLog.Proofs.Row.Filling
import SensorLog.Record.Basic

/-!
# Raw comma separated values are read back

Nothing is quoted, headers stand only where the columns change, and the lines differ in length. Still the text of raw
rows says which records they were (`Csv.read_render`): a line of numbers is a record, in the columns of the last line
that is none, because no column has the name of a number. `Csv.readLines` follows the writer line by line, and what
carries the induction is that it knows the columns that the writer remembers.
-/

namespace SensorLog

/-- The row of raw readings of a record behind a row with the given columns. -/
def Record.row (columns? : Option (List String)) (record : Record) : Row :=
  { columns := record.columns, values := record.cells.map fun cell => .int cell.2
    header := columns? != some record.columns }

/-- The rows of raw readings of records behind a row with the given columns. -/
def Record.rows (columns? : Option (List String)) : List Record → List Row
  | [] => []
  | record :: rest => record.row columns? :: Record.rows (some record.columns) rest

/-- Rows that show raw readings and are marked where their columns change are the rows of records. -/
theorem Record.exists_rows {P : Record → Prop} {rows : List Row} {columns? : Option (List String)}
    (shown : ∀ row ∈ rows, ∃ record, P record ∧ row.columns = record.columns ∧
      row.values = record.cells.map fun cell => .int cell.2)
    (first : ∀ row, rows.head? = some row → (row.header = true ↔ columns? ≠ some row.columns))
    (later : ∀ i before row, rows[i]? = some before → rows[i + 1]? = some row →
      (row.header = true ↔ row.columns ≠ before.columns)) :
    ∃ records, (∀ record ∈ records, P record) ∧ rows = Record.rows columns? records := by
  induction rows generalizing columns? with
  | nil => exact ⟨[], nofun, rfl⟩
  | cons row rest ih =>
      obtain ⟨⟨record, known, columns, values⟩, others⟩ := List.forall_mem_cons.1 shown
      have next : ∀ row', rest.head? = some row' → (row'.header = true ↔ some row.columns ≠ some row'.columns) := by
        intro row' head
        rw [later 0 row row' rfl (List.head?_eq_getElem? ▸ head)]
        exact not_congr (eq_comm.trans Option.some_inj.symm)
      obtain ⟨records, all, same⟩ := ih others next fun i => later (i + 1)
      have header : row.header = (columns? != some record.columns) := by
        rw [Bool.eq_iff_iff, first row rfl, bne_iff_ne, columns]
      refine ⟨record :: records, List.forall_mem_cons.2 ⟨known, all⟩, ?_⟩
      rw [Record.rows, same, columns, Record.row, ← header, ← columns, ← values]

namespace Csv

/-- What stands between the separators of a text. -/
def split (separator : Char) (text : String) : List String :=
  (text.toList.splitOn separator).map String.ofList

/-- The lines of a text in which every line has an end. -/
def lines (text : String) : List String :=
  (split '\n' text).dropLast

/-- The cells of a line. -/
def cells (line : String) : List String :=
  split ',' line

/-- The numbers in the cells of a line, if all of them are numbers. -/
def numbers? (line : String) : Option (List Int) :=
  (cells line).mapM String.toInt?

/-- The records of lines: a line of numbers is a record, and any other line has the columns of those that follow. -/
def readLines (columns : List String) : List String → List Record
  | [] => []
  | line :: rest =>
    match numbers? line with
    | some values => ⟨columns.zip values⟩ :: readLines columns rest
    | none => readLines (cells line) rest

/-- The records of a text in bytes. -/
def read (bytes : ByteArray) : Option (List Record) :=
  (String.fromUTF8? bytes).map fun text => readLines [] (lines text)

/-- A text that stays whole in a cell. -/
structure IsCell (text : String) : Prop where
  comma : ',' ∉ text.toList
  newline : '\n' ∉ text.toList

instance (text : String) : Decidable (IsCell text) :=
  decidable_of_iff (',' ∉ text.toList ∧ '\n' ∉ text.toList)
    ⟨fun ⟨comma, newline⟩ => ⟨comma, newline⟩, fun whole => ⟨whole.comma, whole.newline⟩⟩

/-- A record that can be told from its text: its columns stay whole, and none of them looks like a number. -/
structure Legible (record : Record) : Prop where
  some : record.cells ≠ []
  columns : ∀ column ∈ record.columns, IsCell column ∧ column.toInt? = none

/-! ## Cells and lines -/

theorem cells_intercalate {texts : List String} (whole : ∀ text ∈ texts, IsCell text) (some : texts ≠ []) :
    cells (String.intercalate "," texts) = texts := by
  have parts : ∀ part ∈ texts.map String.toList, ',' ∉ part :=
    List.forall_mem_map.2 fun text member => (whole text member).comma
  rw [cells, split, String.toList_intercalate, show ",".toList = [','] from rfl,
    List.splitOn_intercalate ',' parts (mt List.map_eq_nil_iff.1 some), List.map_map]
  exact List.map_id'' (fun _ => String.ofList_toList) texts

theorem newline_notMem_intercalate {texts : List String} (whole : ∀ text ∈ texts, IsCell text) :
    '\n' ∉ (String.intercalate "," texts).toList := by
  induction texts with
  | nil => exact List.not_mem_nil
  | cons text rest ih =>
      obtain ⟨first, others⟩ := List.forall_mem_cons.1 whole
      cases rest with
      | nil =>
          rw [String.intercalate_singleton]
          exact first.newline
      | cons next later =>
          rw [String.intercalate_cons_cons, String.toList_append, String.toList_append, List.mem_append,
            List.mem_append]
          rintro ((inside | comma) | behind)
          · exact first.newline inside
          · cases List.mem_singleton.1 comma
          · exact ih others behind

theorem lines_line_append {line : String} (whole : '\n' ∉ line.toList) (text : String) :
    lines (RowFormat.line line ++ text) = line :: lines text := by
  have cut : (RowFormat.line line ++ text).toList = line.toList ++ '\n' :: text.toList := by
    rw [RowFormat.line, String.toList_append, String.toList_append, show "\n".toList = ['\n'] from rfl,
      List.append_assoc, List.singleton_append]
  have more : split '\n' text ≠ [] := mt List.map_eq_nil_iff.1 (List.splitOn_ne_nil _ _)
  rw [lines, split, cut, List.splitOn_append_cons_self_of_not_mem whole, List.map_cons, String.ofList_toList]
  exact List.dropLast_cons_of_ne_nil more

/-! ## Numbers and names -/

theorem IsCell.append {first second : String} (whole : IsCell first) (whole' : IsCell second) :
    IsCell (first ++ second) := by
  constructor <;> rw [String.toList_append, List.mem_append]
  · exact not_or.2 ⟨whole.comma, whole'.comma⟩
  · exact not_or.2 ⟨whole.newline, whole'.newline⟩

theorem isCell_repr (n : Nat) : IsCell n.repr := by
  have digits {c : Char} (other : c.isDigit = false) : c ∉ n.repr.toList := by
    intro member
    rw [Nat.toList_repr] at member
    rw [Nat.isDigit_of_mem_toDigits (by decide) (by decide) member] at other
    cases other
  exact ⟨digits rfl, digits rfl⟩

theorem isCell_toString (v : Int) : IsCell (toString v) := by
  have minus : IsCell "-" := ⟨by decide, by decide⟩
  show IsCell v.repr
  rw [Int.repr_eq_if]
  split
  · exact isCell_repr _
  · exact minus.append (isCell_repr _)

theorem numbers?_of_values {values : List Int} (some : values ≠ []) :
    numbers? (String.intercalate "," (values.map toString)) = .some values := by
  have whole : ∀ text ∈ values.map toString, IsCell text := List.forall_mem_map.2 fun v _ => isCell_toString v
  rw [numbers?, cells_intercalate whole (mt List.map_eq_nil_iff.1 some)]
  clear some whole
  induction values with
  | nil => rfl
  | cons v rest ih =>
      have number : (toString v).toInt? = .some v := v.toInt?_repr
      rw [List.map_cons, List.mapM_cons, number, ih]
      rfl

/-- A text with a letter in it is no number. -/
theorem toInt?_of_letter {text : String} (letter : text.toList.any Char.isAlpha = true) : text.toInt? = none := by
  obtain ⟨c, member, alpha⟩ := List.any_eq_true.1 letter
  have odd : ¬(c.isDigit = true ∨ c = '_') := by
    rintro (digit | rfl)
    · simp only [Char.isAlpha, Char.isUpper, Char.isLower, Char.isDigit, Bool.or_eq_true, Bool.and_eq_true,
        decide_eq_true_eq, UInt32.le_iff_toNat_le, Char.reduceVal, UInt32.reduceToNat] at alpha digit
      omega
    · cases alpha
  rw [String.toInt?_eq_none_iff, Bool.eq_false_iff, ne_eq, String.isInt_iff]
  rintro (digits | ⟨digits, rfl, positive⟩)
  · exact odd ((String.isNat_iff.1 digits).2.1 c member)
  · rw [String.toList_append, List.mem_append] at member
    rcases member with minus | inside
    · cases List.mem_singleton.1 minus
      cases alpha
    · exact odd ((String.isNat_iff.1 positive).2.1 c inside)

/-- A line that begins with a name is no line of numbers. -/
theorem numbers?_of_name {name : String} {rest : List String} (whole : ∀ text ∈ name :: rest, IsCell text)
    (word : name.toInt? = none) : numbers? (String.intercalate "," (name :: rest)) = none := by
  rw [numbers?, cells_intercalate whole (List.cons_ne_nil _ _), List.mapM_cons, word]
  rfl

/-! ## Rows -/

variable {record : Record} {records : List Record}

theorem Legible.columns_ne_nil (legible : Legible record) : record.columns ≠ [] :=
  mt List.map_eq_nil_iff.1 legible.some

theorem Legible.values_ne_nil (legible : Legible record) : record.values ≠ [] :=
  mt List.map_eq_nil_iff.1 legible.some

/-- The line of values is a record in the columns that stand. -/
theorem readLines_body (legible : Legible record) (r : Registry) (columns? : Option (List String)) (text : String) :
    readLines record.columns (lines (RowFormat.csv.body r record.columns (record.row columns?).values ++ text)) =
      record :: readLines record.columns (lines text) := by
  have shown : (record.row columns?).values.map (·.text) = record.values.map toString := by
    rw [Record.row, Record.values, List.map_map, List.map_map]
    rfl
  have whole : ∀ text ∈ record.values.map toString, IsCell text := List.forall_mem_map.2 fun v _ => isCell_toString v
  have filled : record.columns.zip record.values = record.cells := (List.zip_of_prod rfl rfl).symm
  rw [RowFormat.body, shown, lines_line_append (newline_notMem_intercalate whole), readLines,
    numbers?_of_values legible.values_ne_nil]
  dsimp only
  rw [filled]

/-- The line of names sets the columns, whatever they were. -/
theorem readLines_header (legible : Legible record) (r : Registry) (columns : List String) (text : String) :
    readLines columns (lines (RowFormat.csv.header r record.columns ++ text)) =
      readLines record.columns (lines text) := by
  have whole : ∀ column ∈ record.columns, IsCell column := fun column member => (legible.columns column member).1
  have names : numbers? (String.intercalate "," record.columns) = none := by
    cases columns : record.columns with
    | nil => exact absurd columns legible.columns_ne_nil
    | cons name rest =>
        have first : name ∈ record.columns := columns ▸ List.mem_cons_self
        exact numbers?_of_name (columns ▸ whole) (legible.columns name first).2
  rw [RowFormat.header, lines_line_append (newline_notMem_intercalate whole), readLines, names,
    cells_intercalate whole legible.columns_ne_nil]

/-- One row is read back by a reader that knows the columns of the row before it. -/
theorem readLines_row (legible : Legible record) (r : Registry) (columns? : Option (List String)) (text : String) :
    readLines (columns?.getD []) (lines (RowFormat.csv.row r (record.row columns?) ++ text)) =
      record :: readLines record.columns (lines text) := by
  rw [RowFormat.row, String.append_assoc]
  by_cases same : columns? = some record.columns
  · have unmarked : (record.row columns?).header = false := by simp [Record.row, same]
    rw [unmarked, if_neg Bool.false_ne_true, String.empty_append, same, Option.getD_some]
    exact readLines_body legible r _ text
  · have marked : (record.row columns?).header = true := by simpa [Record.row] using same
    rw [if_pos marked]
    exact (readLines_header legible r _ _).trans (readLines_body legible r columns? text)

theorem readLines_rows (legible : ∀ record ∈ records, Legible record) (r : Registry)
    (columns? : Option (List String)) :
    readLines (columns?.getD []) (lines (String.join ((Record.rows columns? records).map (RowFormat.csv.row r)))) =
      records := by
  induction records generalizing columns? with
  | nil => rfl
  | cons record rest ih =>
      obtain ⟨first, others⟩ := List.forall_mem_cons.1 legible
      rw [Record.rows, List.map_cons, String.join_cons, readLines_row first]
      exact congrArg (record :: ·) (ih others (some record.columns))

/-- The records can be told from the text of their raw rows. -/
theorem read_render (legible : ∀ record ∈ records, Legible record) (r : Registry) :
    read (RowFormat.csv.render r (Record.rows none records)).toUTF8 = some records := by
  have valid (text : String) : String.fromUTF8? text.toUTF8 = some text := by
    rw [String.toUTF8_eq_toByteArray, String.fromUTF8?, dif_pos text.isValidUTF8]
    rfl
  rw [RowFormat.render_of_ne_text r (by decide), read, valid, Option.map_some]
  exact congrArg some (readLines_rows legible r none)

/-- The second row has the columns of the first. -/
example : read "TS,p\n1,100\n2,101\nTS,t\n3,-5\n".toUTF8 =
    some [⟨[("TS", 1), ("p", 100)]⟩, ⟨[("TS", 2), ("p", 101)]⟩, ⟨[("TS", 3), ("t", -5)]⟩] := by
  cbv

end Csv

end SensorLog
