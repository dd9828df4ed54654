import SensorLog.Proofs.Row.CsvReading
import SensorLog.Proofs.Row.Writer
import SensorLog.Proofs.Transfer.Alignment
import SensorLog.Proofs.Transfer.LogRoundTrip

/-!
# Raw comma separated values lose nothing

A transfer of raw readings writes a header exactly where the columns change, so its text is that of `Record.rows`
(`emitAll_of_raw`), and the records are read back from it: two lists of records have one text only if they are one
list (`emitAll_csv_injective`). Over a run of calls the text tells the rows that were offered (`run_csv_read`), and
over a log in packets it tells the entries that the logger sent (`feeds_csv_read`).
-/

namespace SensorLog

/-! ## Records of the built-in registry -/

theorem EntryField.legible_columns (f : EntryField) :
    ∀ column ∈ f.columns, Csv.IsCell column ∧ column.toInt? = none := by
  have names : ∀ f ∈ all, ∀ column ∈ f.columns,
      Csv.IsCell column ∧ column.toList.any Char.isAlpha = true := by decide
  intro column member
  obtain ⟨whole, letter⟩ := names f f.mem_all column member
  exact ⟨whole, Csv.toInt?_of_letter letter⟩

theorem LogEntry.legible_cells {e : LogEntry} (stamped : e.timestamp ≠ none) : Csv.Legible ⟨e.cells⟩ where
  some := by
    obtain ⟨stamp, present⟩ := Option.ne_none_iff_exists'.1 stamped
    rw [cells_of_stamped present]
    exact List.cons_ne_nil _ _
  columns := by
    refine List.forall_mem_map.2 fun cell member => ?_
    obtain ⟨f, -, inPlace⟩ := List.mem_flatMap.1 member
    exact f.legible_columns cell.1 (List.of_mem_zip inPlace).1

/-- What the built-in registry makes of an entry can be told from its text. -/
theorem Registry.legible_of_columnize {e : LogEntry} {record : Record}
    (columnized : Registry.builtin.columnize e = .ok record) : Csv.Legible record := by
  obtain ⟨stamped, -⟩ := columnize_eq_ok_iff.1 columnized
  rw [LogEntry.cells_of_columnize columnized]
  exact LogEntry.legible_cells stamped

theorem Registry.forall_legible_of_columnize {records : List Record}
    (given : ∀ record ∈ records, ∃ e, Registry.builtin.columnize e = .ok record) :
    ∀ record ∈ records, Csv.Legible record := by
  intro record member
  obtain ⟨e, columnized⟩ := given record member
  exact legible_of_columnize columnized

namespace Transfer

/-! ## Writing records -/

section Emitting

variable {σ : Type} [RowSink σ]

/-- Writes the rows of records, up to the first that is refused. -/
def emitAll (t : Transfer σ) : List Record → Turn σ
  | [] => .again t []
  | record :: rest =>
    match t.emit record with
    | .stop reply => .stop reply
    | .again t' events =>
      match t'.emitAll rest with
      | .stop reply => .stop (reply.after events)
      | .again last later => .again last (events ++ later)

variable {t : Transfer σ}

theorem emit_of_raw (raw : t.settings.raw = true) (faithful : RowSink.NeverFails t.sink) (record : Record) :
    ∃ events, t.emit record = .again { t with
      sink := RowSink.after t.sink [.write (record.row t.lastColumns?)]
      lastColumns? := some record.columns, entries := t.entries + 1 } events := by
  have converted : t.convertAll record.cells = .ok (record.cells.map fun cell => .int cell.2) := by
    rw [convertAll_eq]
    exact Setup.mapM_value_of_raw raw _
  have granted : RowSink.write t.sink (record.row t.lastColumns?) =
      (RowSink.after t.sink [.write (record.row t.lastColumns?)], .ok ()) := faithful.call (.write _)
  rw [Record.row] at granted
  rw [emit, converted]
  dsimp only
  rw [headerChanged, granted]
  exact ⟨_, rfl⟩

/-- Raw readings that no sink refuses are all written, and the columns that are remembered mark the rows. -/
theorem emitAll_of_raw (raw : t.settings.raw = true) (faithful : RowSink.NeverFails t.sink) (records : List Record) :
    ∃ last events, t.emitAll records = .again last events ∧
      last.sink = RowSink.afterRows t.sink (Record.rows t.lastColumns? records) := by
  induction records generalizing t with
  | nil => exact ⟨t, [], rfl, rfl⟩
  | cons record rest ih =>
      obtain ⟨events, emitted⟩ := emit_of_raw raw faithful record
      obtain ⟨last, later, written, sink⟩ := ih (t := { t with
        sink := RowSink.after t.sink [.write (record.row t.lastColumns?)]
        lastColumns? := some record.columns, entries := t.entries + 1 }) raw (faithful.after _)
      refine ⟨last, events ++ later, ?_, sink⟩
      rw [emitAll, emitted]
      dsimp only
      rw [written]

end Emitting

/-- All records are written as comma separated values, and they are read back from the text. -/
theorem emitAll_csv (settings : Settings) {records : List Record} (legible : ∀ record ∈ records, Csv.Legible record) :
    ∃ last events,
      (new { settings with raw := true } .builtin (RowWriter.start .csv .builtin none)).emitAll records =
        .again last events ∧ Csv.read last.sink.sink.bytes = some records := by
  let t := new { settings with raw := true } .builtin (RowWriter.start .csv .builtin none)
  have faithful : RowSink.NeverFails t.sink := RowWriter.Unlimited.neverFails ⟨rfl, rfl⟩
  obtain ⟨last, events, written, sink⟩ := emitAll_of_raw (t := t) rfl faithful records
  refine ⟨last, events, written, ?_⟩
  rw [sink]
  show Csv.read (RowWriter.textOf .csv .builtin (Record.rows none records)) = _
  rw [RowWriter.textOf_eq]
  exact Csv.read_render legible .builtin

/-- Whatever entries the built-in registry makes records of: a transfer of raw readings writes all of them as comma
    separated values, and they are read back from the text, name by name and number by number. So two lists of
    records with the same text are the same list. -/
theorem emitAll_csv_injective (settings : Settings) {first second : List Record}
    (given : ∀ record ∈ first, ∃ e, Registry.builtin.columnize e = .ok record)
    (given' : ∀ record ∈ second, ∃ e, Registry.builtin.columnize e = .ok record) :
    let begun := new { settings with raw := true } .builtin (RowWriter.start .csv .builtin none)
    ∃ last events last' events',
      begun.emitAll first = .again last events ∧ begun.emitAll second = .again last' events' ∧
      Csv.read last.sink.sink.bytes = some first ∧ Csv.read last'.sink.sink.bytes = some second ∧
      (last.sink.sink.bytes = last'.sink.sink.bytes → first = second) := by
  intro begun
  obtain ⟨last, events, written, back⟩ := emitAll_csv settings (Registry.forall_legible_of_columnize given)
  obtain ⟨last', events', written', back'⟩ := emitAll_csv settings (Registry.forall_legible_of_columnize given')
  refine ⟨last, events, last', events', written, written', back, back', ?_⟩
  intro same
  rw [same, back'] at back
  exact (Option.some.inj back).symm

/-- Rows that change their columns and rows that do not, and a temperature below zero. -/
theorem emitAll_csv_injective_columns :
    let first : List Record :=
      [⟨[("TS", 1), ("p", 100)]⟩, ⟨[("TS", 2), ("p", 101)]⟩, ⟨[("TS", 3), ("t", -5)]⟩]
    let second : List Record := [⟨[("TS", 1), ("p", 100)]⟩, ⟨[("TS", 2), ("t", 101)]⟩]
    (∀ record ∈ first, ∃ e, Registry.builtin.columnize e = .ok record) ∧
      (∀ record ∈ second, ∃ e, Registry.builtin.columnize e = .ok record) ∧
      let begun := new { raw := true } .builtin (RowWriter.start .csv .builtin none)
      ∃ last events last' events',
        begun.emitAll first = .again last events ∧ begun.emitAll second = .again last' events' ∧
        Csv.read last.sink.sink.bytes = some first ∧ Csv.read last'.sink.sink.bytes = some second ∧
        (last.sink.sink.bytes = last'.sink.sink.bytes → first = second) := by
  intro first second
  have given : ∀ record ∈ first, ∃ e, Registry.builtin.columnize e = .ok record :=
    List.forall_mem_cons.2 ⟨⟨{ timestamp := some 1, pressure := some 100 }, rfl⟩,
      List.forall_mem_cons.2 ⟨⟨{ timestamp := some 2, pressure := some 101 }, rfl⟩,
        List.forall_mem_singleton.2 ⟨{ timestamp := some 3, temperature := some (-5) }, rfl⟩⟩⟩
  have given' : ∀ record ∈ second, ∃ e, Registry.builtin.columnize e = .ok record :=
    List.forall_mem_cons.2 ⟨⟨{ timestamp := some 1, pressure := some 100 }, rfl⟩,
      List.forall_mem_singleton.2 ⟨{ timestamp := some 2, temperature := some 101 }, rfl⟩⟩
  exact ⟨given, given', emitAll_csv_injective {} given given'⟩

/-! ## Whole runs -/

/-- Whatever is called on a transfer of raw readings, the text tells all rows that were offered: their columns, their
    readings and their marks. -/
theorem run_csv_read (settings : Settings) (calls : List Call) :
    let raw := { settings with raw := true }
    let rows := ((new raw .builtin ({ sink := {} } : Noted RowList)).run calls).transfer.sink.offered
    let text := ((new raw .builtin (RowWriter.start .csv .builtin none)).run calls).transfer.sink.sink.bytes
    ∃ records, rows = Record.rows none records ∧ Csv.read text = some records := by
  intro raw rows text
  have labelled : Labelled rows :=
    (run_marks_changes raw .builtin Registry.builtin.codec ({} : RowList) calls).2.1
  have shown : ∀ row ∈ rows, ∃ record, Csv.Legible record ∧ row.columns = record.columns ∧
      row.values = record.cells.map fun cell => .int cell.2 := by
    intro row member
    obtain ⟨e, owner, ⟨record, columnized⟩, shows⟩ :=
      offered_run raw .builtin Registry.builtin.codec ({} : RowList) (gives_shows raw) calls row member
    have legible := Registry.legible_of_columnize columnized
    obtain rfl := LogEntry.cells_of_columnize columnized
    exact ⟨_, legible, shows.columns, shows.values⟩
  have first : ∀ row, rows.head? = some row → (row.header = true ↔ none ≠ some row.columns) :=
    fun row head => iff_of_true (labelled.first row head) nofun
  obtain ⟨records, legible, same⟩ := Record.exists_rows shown first labelled.later
  have written : text = (RowFormat.csv.render .builtin rows).toUTF8 := bytes_run .csv raw calls
  refine ⟨records, same, ?_⟩
  rw [written, same]
  exact Csv.read_render legible .builtin

theorem rowsOf_eq (columns? : Option (List String)) (entries : List LogEntry) :
    rowsOf columns? entries = Record.rows columns? (entries.map fun e => ⟨e.cells⟩) := by
  induction entries generalizing columns? with
  | nil => rfl
  | cons e rest ih =>
      rw [rowsOf, ih, List.map_cons, Record.rows]
      rfl

/-- However the log of a logger is cut into packets, its entries are read back from the text. -/
theorem feeds_csv_read {entries : List LogEntry} (logged : ∀ e ∈ entries, e.IsLogged) (stamp : UInt32) :
    ∃ wire, logBytes entries stamp = .ok wire ∧
      ∀ packets : List Bytes, (∀ packet ∈ packets, packet ≠ []) → packets.flatten = wire →
        let run := (new { raw := true } .builtin (RowWriter.start .csv .builtin none)).feeds packets
        run.results.getLast? = some (.ok (.complete entries.length)) ∧
          Csv.read run.transfer.sink.sink.bytes = some (entries.map fun e => ⟨e.cells⟩) := by
  refine ⟨LogRoundTrip.framed entries stamp, LogRoundTrip.logBytes_eq logged stamp, ?_⟩
  intro packets inhabited joined run
  have faithful : RowSink.NeverFails (RowWriter.start .csv .builtin none) := RowWriter.Unlimited.neverFails ⟨rfl, rfl⟩
  have legible : ∀ record ∈ entries.map fun e => (⟨e.cells⟩ : Record), Csv.Legible record := by
    refine List.forall_mem_map.2 fun e member => ?_
    exact LogEntry.legible_cells (Option.isSome_iff_ne_none.1 (logged e member).stamped)
  cases packets with
  | nil => exact absurd joined.symm (LogRoundTrip.framed_ne_nil entries stamp)
  | cons packet rest =>
      rw [List.flatten_cons] at joined
      obtain ⟨-, nonempty⟩ := List.forall_mem_cons.1 inhabited
      have results : run.results = _ := LogRoundTrip.results_framed logged faithful nonempty joined
      have sink : run.transfer.sink = _ := LogRoundTrip.sink_framed logged faithful joined
      constructor
      · rw [results, List.getLast?_concat]
      · rw [sink, RowSink.after_append]
        -- The flush at the end leaves the text as it is.
        show Csv.read (RowWriter.textOf .csv .builtin (rowsOf none entries)) = _
        rw [RowWriter.textOf_eq, rowsOf_eq]
        exact Csv.read_render legible .builtin

end Transfer

end SensorLog
