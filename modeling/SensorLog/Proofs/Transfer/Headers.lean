import SensorLog.Proofs.Transfer.LifeCycle
import SensorLog.Schema.Builtin

/-!
# Header marks follow the columns

A row is marked as a header where its columns differ from those of the row before it, and the first row always is
(`Labelled`). The transfer compares each row with the columns it remembers, so what every pass keeps is that these
are the columns of the last row that was offered to the sink (`Noted.Marked`). A row that the sink refuses counts as
offered; a frame that gives no row changes neither side, however it was read.
-/

namespace SensorLog

/-- Rows whose marks follow their columns. -/
structure Labelled (rows : List Row) : Prop where
  /-- Each row has one value per column. -/
  filled : ∀ row ∈ rows, row.values.length = row.columns.length
  first : ∀ row, rows.head? = some row → row.header = true
  /-- A later row is marked exactly if its columns are not those of the row before it. -/
  later : ∀ i before row, rows[i]? = some before → rows[i + 1]? = some row →
    (row.header = true ↔ row.columns ≠ before.columns)

namespace Labelled

variable {rows : List Row} {row : Row}

theorem nil : Labelled [] :=
  ⟨nofun, nofun, nofun⟩

/-- A row that is marked by the last row may follow. -/
theorem concat (labelled : Labelled rows) (filled : row.values.length = row.columns.length)
    (marked : row.header = true ↔ rows.getLast?.map (·.columns) ≠ some row.columns) :
    Labelled (rows ++ [row]) where
  filled := List.forall_mem_append.2 ⟨labelled.filled, List.forall_mem_singleton.2 filled⟩
  first := by
    intro first head
    cases rows with
    | nil =>
        cases head
        exact marked.2 nofun
    | cons earlier rest => exact labelled.first first head
  later := by
    intro i before after here next
    have bound : i + 1 < (rows ++ [row]).length := (List.getElem?_eq_some_iff.1 next).1
    rw [List.length_append, List.length_singleton] at bound
    have inside : i + 1 ≤ rows.length := Nat.le_of_lt_succ bound
    rw [List.getElem?_append_left inside] at here
    rcases Nat.lt_or_eq_of_le inside with earlier | last
    · rw [List.getElem?_append_left earlier] at next
      exact labelled.later i before after here next
    · rw [last, List.getElem?_concat_length] at next
      cases next
      have end' : rows.getLast? = some before := by
        rw [List.getLast?_eq_getElem?, ← last, Nat.add_sub_cancel, here]
      rw [marked, end', Option.map_some]
      exact not_congr ((Option.some_inj).trans eq_comm)

end Labelled

namespace Noted

variable {σ : Type}

/-- The row of a note, taken or refused. -/
def row? : SinkCall × Except IoError Unit → Option Row
  | (.write row, _) => some row
  | (.flush, _) => none

/-- The rows that were offered to the sink, first row first. -/
def offered (s : Noted σ) : List Row :=
  s.notes.filterMap row?

/-- The rows that were offered are marked, and these are the columns of the last one. -/
structure Marked (s : Noted σ) (columns? : Option (List String)) : Prop where
  labelled : Labelled s.offered
  last : columns? = s.offered.getLast?.map (·.columns)

variable [RowSink σ] {s s' : Noted σ} {result : Except IoError Unit} {columns? : Option (List String)}

theorem offered_of_call {c : SinkCall} (answer : RowSink.call s c = (s', result)) :
    s'.offered = s.offered ++ (row? (c, result)).toList := by
  rw [offered, offered, notes_of_call answer, List.filterMap_append, List.filterMap_cons, List.filterMap_nil]
  cases row? (c, result) <;> rfl

theorem Marked.flush (marked : s.Marked columns?) (answer : RowSink.flush s = (s', result)) :
    s'.Marked columns? := by
  have offered : s'.offered = s.offered ++ [] := offered_of_call (c := .flush) answer
  rw [List.append_nil] at offered
  constructor
  · rw [offered]
    exact marked.labelled
  · rw [offered]
    exact marked.last

end Noted

namespace Transfer

/-- Every cell is converted or none is. -/
theorem length_of_convertAll {σ : Type} {t : Transfer σ} {cells : List (String × Int)} {values : List Value}
    (converted : t.convertAll cells = .ok values) : values.length = cells.length := by
  fun_induction t.convertAll cells generalizing values with
  | case1 =>
      cases converted
      rfl
  | case2 => cases converted
  | case3 => cases converted
  | case4 column raw rest value _ more behind ih =>
      cases converted
      rw [List.length_cons, List.length_cons, ih behind]

variable {σ : Type} [RowSink σ] {t : Transfer (Noted σ)}

/-- What a row says of its columns is true of the rows before it. -/
theorem marked_write {record : Record} {values : List Value} {s : Noted σ} {result : Except IoError Unit}
    (marked : t.sink.Marked t.lastColumns?) (converted : t.decoded.convertAll record.cells = .ok values)
    (answer : RowSink.write t.sink (t.rowOf record values) = (s, result)) : s.Marked (some record.columns) := by
  have offered : s.offered = t.sink.offered ++ [t.rowOf record values] :=
    Noted.offered_of_call (c := .write (t.rowOf record values)) answer
  have filled : values.length = record.columns.length := by
    rw [length_of_convertAll converted, Record.length_columns, Record.size]
  have follows : t.headerChanged record.columns = true ↔
      t.sink.offered.getLast?.map (·.columns) ≠ some record.columns := by
    rw [headerChanged, marked.last, bne_iff_ne]
  constructor
  · rw [offered]
    exact marked.labelled.concat filled follows
  · rw [offered, List.getLast?_concat]
    rfl

theorem marked_finish (marked : t.sink.Marked t.lastColumns?) :
    t.finish.transfer.sink.Marked t.finish.transfer.lastColumns? := by
  obtain ⟨sink, result, phase, answer, finished, -⟩ := t.transfer_finish
  rw [finished]
  exact marked.flush answer

theorem marked_of_stop {reply : Reply (Noted σ)} (marked : t.sink.Marked t.lastColumns?)
    (turn : t.turn = .stop reply) : reply.transfer.sink.Marked reply.transfer.lastColumns? := by
  cases case_of_turn turn with
  | limit reached events => exact marked_finish marked
  | ended below outcome events => exact marked_finish (t := t.decoded) marked
  | refused record values sink cause below outcome converted answer events =>
      exact marked_write marked converted answer
  -- No row is written, and the remembered columns stay.
  | starved below outcome events => exact marked
  | broken cause below outcome events => exact marked
  | unknownColumn record cause below outcome unknown events => exact marked
  | retry cause below outcome within events => exact marked
  | exhausted cause below outcome spent events => exact marked

theorem marked_of_again {t' : Transfer (Noted σ)} {events : List Event} (marked : t.sink.Marked t.lastColumns?)
    (turn : t.turn = .again t' events) : t'.sink.Marked t'.lastColumns? := by
  cases case_of_turn turn with
  | written record values sink below outcome converted answer events =>
      exact marked_write marked converted answer

theorem marked_advance (marked : t.sink.Marked t.lastColumns?) :
    t.advance.transfer.sink.Marked t.advance.transfer.lastColumns? := by
  induction t using advance_induction with
  | stop t reply turn =>
      rw [advance_of_stop turn]
      exact marked_of_stop marked turn
  | again t t' events turn ih =>
      rw [advance_of_again turn]
      exact ih (marked_of_again marked turn)

theorem marked_feed (marked : t.sink.Marked t.lastColumns?) (packet : Bytes) :
    (t.feed packet).transfer.sink.Marked (t.feed packet).transfer.lastColumns? := by
  by_cases running : t.phase = .running
  · rw [feed_of_running running]
    split
    · exact marked
    · exact marked_advance marked
  · rw [(feed_of_ended running packet).1]
    exact marked

theorem marked_feeds (marked : t.sink.Marked t.lastColumns?) (packets : List Bytes) :
    (t.feeds packets).transfer.sink.Marked (t.feeds packets).transfer.lastColumns? := by
  induction packets generalizing t with
  | nil => exact marked
  | cons packet rest ih =>
      rw [feeds_cons]
      exact ih (marked_feed marked packet)

/-- Over any run of calls on a fresh transfer the rows that are offered to its sink have one value per column, the
    first of them is marked, and a later one exactly if its columns are not those of the row before it. The
    remembered columns are those of the last row. Noting the calls of the sink changes no answer. -/
theorem run_marks_changes (settings : Settings) (registry : Registry) (codec : RecordCodec) (sink : σ)
    (calls : List Call) :
    let noted := (ofCodec settings registry codec ({ sink } : Noted σ)).run calls
    (ofCodec settings registry codec sink).run calls
        = { results := noted.results, transfer := noted.transfer.mapSink Noted.sink } ∧
      Labelled noted.transfer.sink.offered ∧
      noted.transfer.lastColumns? = noted.transfer.sink.offered.getLast?.map (·.columns) := by
  intro noted
  let t := ofCodec settings registry codec ({ sink } : Noted σ)
  have forgotten := run_mapSink Noted.respects_sink t calls
  have fresh : t.sink.Marked t.lastColumns? := ⟨.nil, rfl⟩
  have marked := marked_feeds fresh (t.packetsOf calls)
  rw [← transfer_run] at marked
  exact ⟨forgotten, marked.labelled, marked.last⟩

/-- Two rows with the same columns and one with others. The second row comes in two packets that changed places, and
    a corrupt attempt lies between it and the first. -/
example :
    let t := ofCodec { raw := true } .builtin Registry.builtin.codec ({ sink := {} } : Noted RowList)
    let calls : List Call := [.feed [4, 8, 1, 16, 100, 4, 8], .feed [16, 100, 6], .feed [2], .retryPending,
      .feed [8, 3, 16, 101, 24, 7]]
    ((t.run calls).transfer.sink.offered.map fun row => (row.columns.length, row.header)) =
      [(2, true), (2, false), (3, true)] := by
  decide +kernel

end Transfer

end SensorLog
