import SensorLog.Proofs.Transfer.SinkMap
import SensorLog.Row.Writer

/-!
# What a writer has written

`RowFormat.render` is the text of a list of rows, without a writer: the rows one after another, where aligned
text has a blank line ahead of its first header. A writer without a limit is the list of its rows, rendered:
`RowList.written` takes each answer of the list over to the writer (`RowList.respects_written`), so whatever
a transfer does with a writer it does with the list.
-/

namespace SensorLog

namespace RowFormat

variable (format : RowFormat) (r : Registry)

/-- The text of rows. -/
def render : List Row → String
  | [] => ""
  | row :: rest =>
    if row.header then (if format = .text then "\n" else "") ++ String.join ((row :: rest).map (format.row r))
    else format.row r row ++ render rest

/-- The blank line ahead of a row behind others: aligned text has it where the first header is. -/
def gap (earlier : List Row) (row : Row) : String :=
  if format = .text ∧ row.header = true ∧ earlier.any (·.header) = false then "\n" else ""

theorem render_concat (rows : List Row) (row : Row) :
    format.render r (rows ++ [row]) = format.render r rows ++ (format.gap rows row ++ format.row r row) := by
  induction rows with
  | nil =>
      cases header : row.header <;> by_cases aligned : format = .text <;>
        simp [render, gap, header, aligned, String.join]
  | cons first rest ih =>
      cases header : first.header with
      | true => simp [render, gap, header, String.append_assoc]
      | false => simp [render, gap, header, ih, String.append_assoc]

/-- Only aligned text has anything between its rows. -/
theorem render_of_ne_text {format : RowFormat} (other : format ≠ .text) (rows : List Row) :
    format.render r rows = String.join (rows.map (format.row r)) := by
  induction rows with
  | nil => rfl
  | cons row rest ih =>
      rw [render, if_neg other, String.empty_append, List.map_cons, String.join_cons, ih, ite_self]

/-- Rows without the mark are their lines of values. -/
theorem render_of_unmarked {rows : List Row} (unmarked : ∀ row ∈ rows, row.header = false) :
    format.render r rows = String.join (rows.map fun row => format.body r row.columns row.values) := by
  induction rows with
  | nil => rfl
  | cons row rest ih =>
      obtain ⟨first, others⟩ := List.forall_mem_cons.1 unmarked
      rw [List.map_cons, String.join_cons, ← ih others]
      simp [render, RowFormat.row, first]

/-- The blank line of aligned text stands ahead of the first row that has the mark. -/
theorem render_of_first {before : List Row} {first : Row} (unmarked : ∀ row ∈ before, row.header = false)
    (marked : first.header = true) (later : List Row) :
    format.render r (before ++ first :: later) =
      String.join (before.map fun row => format.body r row.columns row.values) ++
        ((if format = .text then "\n" else "") ++ String.join ((first :: later).map (format.row r))) := by
  induction before with
  | nil => simp [render, marked, String.join_nil]
  | cons row rest ih =>
      obtain ⟨other, others⟩ := List.forall_mem_cons.1 unmarked
      rw [List.map_cons, String.join_cons, String.append_assoc, ← ih others]
      simp [render, RowFormat.row, other]

end RowFormat

/-- The writer that has written the rows of a list. -/
def RowList.written (format : RowFormat) (r : Registry) (s : RowList) : RowWriter where
  format := format
  registry := r
  sink := { bytes := (format.render r s.rows.toList).toUTF8 }
  separated := decide (format = .text) && s.rows.toList.any (·.header)

/-- Before its first row a writer has written nothing. -/
theorem RowList.written_empty (format : RowFormat) (r : Registry) :
    RowList.written format r {} = { format, registry := r, sink := {} } := by
  simp only [RowList.written, List.any_nil, Bool.and_false]
  rfl

/-- A writer without a limit answers as a list of rows does. -/
theorem RowList.respects_written (format : RowFormat) (r : Registry) :
    RowSink.Respects (RowList.written format r) := by
  intro s c
  cases c with
  | flush => rfl
  | write row =>
      show (s.written format r).write row = (RowList.written format r ⟨s.rows.push row⟩, .ok ())
      have text := format.render_concat r s.rows.toList row
      unfold RowFormat.gap at text
      by_cases first : format = .text ∧ row.header = true ∧ s.rows.toList.any (·.header) = false
      · obtain ⟨aligned, header, none⟩ := first
        subst aligned
        rw [if_pos ⟨rfl, header, none⟩] at text
        simp [RowList.written, RowWriter.write, RowWriter.writeLines, TextSink.write, text, header, none,
          ByteArray.append_assoc]
      · rw [if_neg first, String.empty_append] at text
        have lines : (s.written format r).write row = (s.written format r).writeLines row := by
          rw [RowWriter.write, if_neg]
          rintro ⟨aligned, header, unset⟩
          refine first ⟨aligned, header, ?_⟩
          simpa [RowList.written, show format = .text from aligned] using unset
        -- Behind the first header of aligned text the writer stays as it is, so its mark tells of both lists.
        have marked (aligned : format = .text) :
            (s.rows.toList ++ [row]).any (·.header) = s.rows.toList.any (·.header) := by
          rw [List.any_append, List.any_cons, List.any_nil, Bool.or_false]
          cases header : row.header with
          | false => exact Bool.or_false _
          | true =>
              have earlier : s.rows.toList.any (·.header) = true := by simpa [aligned, header] using first
              rw [earlier, Bool.true_or]
        rw [lines]
        simp only [RowList.written, RowWriter.writeLines, TextSink.write, Array.toList_push, text,
          String.toUTF8_eq_toByteArray, String.toByteArray_append]
        by_cases aligned : format = .text
        · rw [marked aligned]
        · simp [aligned]

end SensorLog
