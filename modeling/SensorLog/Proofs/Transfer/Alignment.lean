import SensorLog.Proofs.Row.Alignment
import SensorLog.Proofs.Row.Filling
import SensorLog.Proofs.Transfer.Conversion
import SensorLog.Proofs.Transfer.Offered

/-!
# Aligned text of a transfer

Every row of a transfer is that of an entry: its cells are the cells of the entry with their values
(`offered_of_entries`). So the readings of the entry decide whether the row is aligned, and whether it can be read
back by splitting it at its blanks (`run_text_aligned_iff`). A timestamp of this century does neither.
-/

namespace SensorLog

/-! ## Cells of the built-in registry -/

theorem EntryField.name_builtin (f : EntryField) : f.builtin.name = f.name :=
  (Registry.field_eq_ok_iff.1 f.field_builtin).2

namespace LogEntry

variable {e : LogEntry}

theorem eq_builtin_of_placed {f : EntryField} {field : Field} (placed : e.Placed Registry.builtin.fields f field) :
    field = f.builtin := by
  have found : Registry.builtin.field f.name = .ok field := Registry.field_eq_ok_iff.2 ⟨placed.1, placed.2.1⟩
  rw [f.field_builtin] at found
  cases found
  rfl

/-- What the built-in registry makes of an entry, if it makes anything of it. -/
theorem cells_of_columnize {record : Record} (columnized : Registry.builtin.columnize e = .ok record) :
    record = ⟨e.cells⟩ := by
  obtain ⟨-, owner, placed, rfl⟩ := Registry.columnize_eq_ok_iff.1 columnized
  rw [cellsIn, cells]
  congr 1
  refine List.flatMap_congr fun f _ => ?_
  by_cases absent : e.values f = []
  · rw [absent, List.zip_nil_right, List.zip_nil_right]
  · rw [eq_builtin_of_placed (placed f absent), f.columns_builtin]

theorem exists_field_of_mem_cells {cell : String × Int} (member : cell ∈ e.cells) :
    ∃ f : EntryField, Registry.builtin.fieldOfColumn cell.1 = .ok f.builtin ∧ cell.2 ∈ e.values f := by
  obtain ⟨f, -, inPlace⟩ := List.mem_flatMap.1 member
  obtain ⟨column, value⟩ := List.of_mem_zip inPlace
  rw [← f.columns_builtin] at column
  exact ⟨f, Registry.fieldOfColumn_eq_ok_iff.2 ⟨(Registry.field_eq_ok_iff.1 f.field_builtin).1, column⟩, value⟩

/-- Readings are of 32 bits, with a sign or without. -/
theorem bounds_of_mem_values {f : EntryField} {v : Int} (member : v ∈ e.values f) :
    v.natAbs < 2 ^ 32 ∧ (f = .timestamp → 0 ≤ v) := by
  have word (w : UInt32) : (Int.ofNat w.toNat).natAbs < 2 ^ 32 := w.toNat_lt
  have signed (w : Int32) : w.toInt.natAbs < 2 ^ 32 := by
    have low := w.le_toInt
    have high := w.toInt_lt
    omega
  cases f with
  | temperature | compass | accelerometer | gyro =>
      obtain ⟨w, -, rfl⟩ := List.mem_map.1 member
      exact ⟨signed w, nofun⟩
  | timestamp | pressure | rh | lux | uvi | batteryMv | gpio0Mv | gpio1Mv | intGpio0 | intGpio1 | intAcc =>
      obtain ⟨w, -, rfl⟩ := List.mem_map.1 member
      exact ⟨word w, fun _ => Int.natCast_nonneg _⟩

end LogEntry

/-- The value of a reading in a column of a field: itself, or the quantity. -/
def Field.value (f : Field) (raw : Bool) (reading : Int) : Value :=
  if raw then .int reading else .real (f.toUnit (floatOfReading reading))

theorem Setup.mapM_value_of_owner {setup : Setup} {owner : String → Field} {cells : List (String × Int)}
    (owned : ∀ cell ∈ cells, setup.registry.fieldOfColumn cell.1 = .ok (owner cell.1)) :
    cells.mapM setup.value = .ok (cells.map fun cell => (owner cell.1).value setup.settings.raw cell.2) := by
  induction cells with
  | nil => rfl
  | cons cell rest ih =>
      obtain ⟨here, later⟩ := List.forall_mem_cons.1 owned
      have first : setup.value cell = .ok ((owner cell.1).value setup.settings.raw cell.2) := by
        rw [value, Field.value, Registry.toUnit_of_owner here]
        cases setup.settings.raw <;> rfl
      rw [List.mapM_cons, first, ih later]
      rfl

/-! ## The row of an entry -/

namespace Row

open RowFormat

/-- The row shows the cells of an entry, in the fields that own their columns. -/
structure Shows (owner : String → Field) (raw : Bool) (e : LogEntry) (row : Row) : Prop where
  owned : ∀ cell ∈ e.cells, Registry.builtin.fieldOfColumn cell.1 = .ok (owner cell.1)
  columns : row.columns = e.columns
  values : row.values = e.cells.map fun cell => (owner cell.1).value raw cell.2

variable {owner : String → Field} {raw : Bool} {e : LogEntry} {row : Row}

theorem Shows.cells (shows : row.Shows owner raw e) :
    row.cells = e.cells.map fun cell => (cell.1, (owner cell.1).value raw cell.2) := by
  rw [Row.cells, shows.columns, shows.values, LogEntry.columns, List.zip_map']

theorem Shows.owned_columns (shows : row.Shows owner raw e) :
    ∀ column ∈ row.columns, Registry.builtin.fieldOfColumn column = .ok (owner column) := by
  rw [shows.columns]
  exact List.forall_mem_map.2 shows.owned

/-- The owner of a cell is the field of the message that the reading comes from. -/
theorem Shows.exists_field (shows : row.Shows owner raw e) {cell : String × Int} (member : cell ∈ e.cells) :
    ∃ f : EntryField, owner cell.1 = f.builtin ∧ cell.2 ∈ e.values f := by
  obtain ⟨f, found, value⟩ := LogEntry.exists_field_of_mem_cells member
  rw [shows.owned cell member] at found
  exact ⟨f, Except.ok.inj found, value⟩

/-- A reading that is not converted, or a timestamp, is shown with its own digits and its own sign. -/
theorem Shows.shown_eq (shows : row.Shows owner raw e) {cell : String × Int} (member : cell ∈ e.cells)
    (plain : raw = true ∨ (owner cell.1).name = timestampName) :
    (owner cell.1).shown ((owner cell.1).value raw cell.2) = cell.2.natAbs * 10 ^ (owner cell.1).text.precision ∧
      ((owner cell.1).value raw cell.2).isNegative = decide (cell.2 < 0) := by
  obtain ⟨f, own, value⟩ := shows.exists_field member
  have small : cell.2.natAbs < 2 ^ 53 := Nat.lt_trans (LogEntry.bounds_of_mem_values value).1 (by decide)
  have kept : ((owner cell.1).value raw cell.2).toFloat = floatOfReading cell.2 := by
    rcases plain with rfl | stamp
    · rfl
    · have unit : (owner cell.1).toUnit = id := by
        rw [own, f.name_builtin] at stamp
        rw [own, EntryField.name_injective (g := .timestamp) stamp]
        rfl
      rw [Field.value, unit]
      cases raw <;> rfl
  rw [Field.shown, Value.isNegative, kept]
  exact (owner cell.1).text.shown_of_reading small

/-- The readings of an entry decide what becomes of its row. -/
theorem Shows.aligned_iff (shows : row.Shows owner raw e) :
    row.Aligned .builtin ↔ ∀ cell ∈ e.cells.dropLast,
      (owner cell.1).shown ((owner cell.1).value raw cell.2) < 10 ^ (owner cell.1).room := by
  have filled : row.values.length = row.columns.length := by
    rw [shows.values, shows.columns, LogEntry.columns, List.length_map, List.length_map]
  rw [Row.aligned_iff shows.owned_columns filled, shows.cells, ← List.map_dropLast, List.forall_mem_map]

theorem Shows.separate_iff (shows : row.Shows owner raw e) :
    row.Separate .builtin ↔ e.cells.IsChain fun cell next =>
      (owner cell.1).shown ((owner cell.1).value raw cell.2) < 10 ^ ((owner cell.1).room - 1) ∨
        ((owner next.1).value raw next.2).isNegative = false := by
  have stamped : ∀ cell ∈ row.cells, (owner cell.1).name = timestampName → cell.2.isNegative = false := by
    rw [shows.cells, List.forall_mem_map]
    intro cell member stamp
    obtain ⟨f, own, value⟩ := shows.exists_field member
    have sign := (shows.shown_eq member (.inr stamp)).2
    rw [own, f.name_builtin] at stamp
    have nonnegative := (LogEntry.bounds_of_mem_values value).2 (EntryField.name_injective stamp)
    exact sign.trans (decide_eq_false (Int.not_lt.2 nonnegative))
  rw [Row.separate_iff shows.owned_columns stamped, shows.cells, List.isChain_map]

end Row

/-! ## The text of a transfer -/

/-- A text writer without a limit is the list of the rows that were offered, rendered. -/
theorem Noted.respects_rendered (format : RowFormat) (r : Registry) :
    RowSink.Respects fun s : Noted RowList => RowList.written format r ⟨s.offered.toArray⟩ := by
  intro s c
  have respected := RowList.respects_written format r ⟨s.offered.toArray⟩ c
  have offered : (RowSink.call s c).1.offered = s.offered ++ (row? (c, (RowSink.call s c).2)).toList :=
    offered_of_call rfl
  cases c with
  | flush =>
      refine respected.trans (Prod.ext ?_ rfl)
      show RowList.written format r ⟨s.offered.toArray⟩ = RowList.written format r ⟨_⟩
      rw [offered, show (row? (.flush, _)).toList = [] from rfl, List.append_nil]
  | write row =>
      refine respected.trans (Prod.ext ?_ rfl)
      show RowList.written format r ⟨s.offered.toArray.push row⟩ = RowList.written format r ⟨_⟩
      rw [offered, List.push_toArray]
      rfl

namespace Transfer

/-- A writer without a limit ends up with the rows that were offered, rendered. -/
theorem bytes_run (format : RowFormat) (settings : Settings) (calls : List Call) :
    ((new settings .builtin (RowWriter.start format .builtin none)).run calls).transfer.sink.sink.bytes =
      (format.render .builtin
        ((new settings .builtin ({ sink := {} } : Noted RowList)).run calls).transfer.sink.offered).toUTF8 := by
  let t := new settings .builtin ({ sink := {} } : Noted RowList)
  have begun : t.mapSink (fun s => RowList.written format .builtin ⟨s.offered.toArray⟩) =
      new settings .builtin (RowWriter.start format .builtin none) :=
    congrArg (new settings .builtin) (RowList.written_empty format .builtin)
  have mapped := run_mapSink (Noted.respects_rendered format .builtin) t calls
  rw [begun] at mapped
  rw [mapped]
  rfl

/-- With the built-in registry all rows are those of entries. -/
theorem gives_shows (settings : Settings) :
    Setup.Gives ⟨settings, .builtin, Registry.builtin.codec⟩ fun row =>
      ∃ e owner, (∃ record, Registry.builtin.columnize e = .ok record) ∧ row.Shows owner settings.raw e := by
  intro payload record values header decoded converted
  obtain ⟨e, -, columnized⟩ := Registry.decode_eq_ok_iff.1 decoded
  obtain rfl := LogEntry.cells_of_columnize columnized
  have found : ∀ column ∈ e.columns, ∃ field, Registry.builtin.fieldOfColumn column = .ok field := by
    refine List.forall_mem_map.2 fun cell member => ?_
    obtain ⟨f, found, -⟩ := LogEntry.exists_field_of_mem_cells member
    exact ⟨_, found⟩
  have : Nonempty Field := ⟨.timestamp⟩
  choose! owner owned using found
  have owned : ∀ cell ∈ e.cells, Registry.builtin.fieldOfColumn cell.1 = .ok (owner cell.1) :=
    List.forall_mem_map.1 owned
  rw [Setup.mapM_value_of_owner owned] at converted
  exact ⟨e, owner, ⟨_, columnized⟩, owned, rfl, (Except.ok.inj converted).symm⟩

/-- Over any run of calls with the built-in registry, converted or raw, the text is that of rows of entries, each
    under the names and units that were last written, all of them set in cells. A row is aligned exactly if no value
    ahead of its last one has more digits than there is room for, and it is read back by splitting it at its blanks
    exactly if no value that fills its column, or is longer, stands ahead of a minus sign. The digits and the sign of
    a timestamp, and of all that is not converted, are those of the reading. -/
theorem run_text_aligned_iff (settings : Settings) (calls : List Call) :
    let rows := ((new settings .builtin ({ sink := {} } : Noted RowList)).run calls).transfer.sink.offered
    ((new settings .builtin (RowWriter.start .text .builtin none)).run calls).transfer.sink.sink.bytes =
        (RowFormat.text.render .builtin rows).toUTF8 ∧
      Labelled rows ∧
      ∀ row ∈ rows, ∃ (e : LogEntry) (owner : String → Field),
        (∃ record, Registry.builtin.columnize e = .ok record) ∧ row.Shows owner settings.raw e ∧
        RowFormat.text.row .builtin row =
          (if row.header then
            RowFormat.line (String.join (row.columns.map RowFormat.pad)) ++
              RowFormat.line (String.join ((row.columns.map (RowFormat.unitText .builtin)).map RowFormat.pad))
          else "") ++ RowFormat.line (String.join ((RowFormat.cellTexts .builtin row).map RowFormat.pad)) ∧
        let digits := fun cell : String × Int => (owner cell.1).shown ((owner cell.1).value settings.raw cell.2)
        let minus := fun cell : String × Int => ((owner cell.1).value settings.raw cell.2).isNegative
        (row.Aligned .builtin ↔ ∀ cell ∈ e.cells.dropLast, digits cell < 10 ^ (owner cell.1).room) ∧
        (row.Separate .builtin ↔ e.cells.IsChain fun cell next =>
          digits cell < 10 ^ ((owner cell.1).room - 1) ∨ minus next = false) ∧
        ∀ cell ∈ e.cells, settings.raw = true ∨ (owner cell.1).name = timestampName →
          digits cell = cell.2.natAbs * 10 ^ (owner cell.1).text.precision ∧ minus cell = decide (cell.2 < 0) := by
  intro rows
  refine ⟨bytes_run .text settings calls, ?_, ?_⟩
  · exact (run_marks_changes settings .builtin Registry.builtin.codec ({} : RowList) calls).2.1
  · intro row member
    obtain ⟨e, owner, columnized, shows⟩ :=
      offered_run settings .builtin Registry.builtin.codec ({} : RowList) (gives_shows settings) calls row member
    exact ⟨e, owner, columnized, shows, RowFormat.row_text .builtin row, shows.aligned_iff, shows.separate_iff,
      fun _ => shows.shown_eq⟩

set_option maxRecDepth 10000 in
/-- A timestamp of this century is longer than its column, and a negative temperature after it stands right at its
    last digit. -/
theorem run_text_misaligned :
    let calls : List Call := [.feed [9, 8, 128, 160, 248, 250, 5, 32, 195, 19]]
    let rows := ((new {} .builtin ({ sink := {} } : Noted RowList)).run calls).transfer.sink.offered
    ((new {} .builtin (RowWriter.start .text .builtin none)).run calls).transfer.sink.sink.bytes =
        "\nTS        t         \n(s)       (C)       \n 1600000000-1.250    \n".toUTF8 ∧
      rows.length = 1 ∧ ∀ row ∈ rows, ¬ row.Aligned .builtin ∧ ¬ row.Separate .builtin := by
  decide +kernel

end Transfer

end SensorLog
