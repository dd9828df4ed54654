import SensorLog.Proofs.Record.Columns

/-!
# Which column holds which number

A registry gives every field of an entry a place, or it names the first field that has none (`columnize_cases`).
In their places the numbers of an entry stand in message order, each under a column of its own, and the look-up
of the column leads back to the field (`columnize_exact`). So every column of a decoded record has its field in the
registry (`owned_of_decode`).
-/

namespace SensorLog

theorem EntryField.name_injective {f g : EntryField} (same : f.name = g.name) : f = g := by
  have distinct : (all.map EntryField.name).Nodup := by decide
  exact List.inj_on_of_nodup_map distinct f.mem_all g.mem_all same

namespace LogEntry

variable {e : LogEntry} {r : Registry} {f : EntryField} {field : Field} {cause : SchemaError}

/-- What is wrong with a present field that has no place: no field has its name, or it is a vector and the one that
    has its name lacks axes. -/
inductive Misplaced (e : LogEntry) (fields : List Field) (f : EntryField) : SchemaError → Prop
  | unknown (present : e.values f ≠ []) (absent : ∀ field ∈ fields, field.name ≠ f.name) :
      Misplaced e fields f (.unknownField f.name)
  | crowded (field : Field) (present : e.values f ≠ []) (member : field ∈ fields) (named : field.name = f.name)
      (vector : f.isVector = true) (few : field.axes = [] ∨ field.axes.length < (e.values f).length) :
      Misplaced e fields f (.tooManyValues f.name (e.values f).length field.axes.length)

theorem Misplaced.present {fields : List Field} (misplaced : e.Misplaced fields f cause) : e.values f ≠ [] := by
  cases misplaced with
  | unknown present => exact present
  | crowded _ present => exact present

theorem placed_or_misplaced (present : e.values f ≠ []) (fields : List Field) :
    (∃ field, e.Placed fields f field) ∨ ∃ cause, e.Misplaced fields f cause := by
  by_cases known : ∃ field ∈ fields, field.name = f.name
  · obtain ⟨field, member, named⟩ := known
    by_cases crowded : f.isVector = true ∧ (field.axes = [] ∨ field.axes.length < (e.values f).length)
    · exact .inr ⟨_, .crowded field present member named crowded.1 crowded.2⟩
    · refine .inl ⟨field, member, named, ?_⟩
      intro vector
      have room : ¬(field.axes = [] ∨ field.axes.length < (e.values f).length) := fun few => crowded ⟨vector, few⟩
      rw [not_or, Nat.not_lt] at room
      exact room
  · refine .inr ⟨_, .unknown present ?_⟩
    exact fun field member named => known ⟨field, member, named⟩

theorem Misplaced.cells_eq (misplaced : e.Misplaced r.fields f cause) {reading : Reading}
    (present : e.reading? f = some reading) : r.cells f reading = .error cause := by
  cases misplaced with
  | unknown _ absent =>
      have unknown : r.field f.name = .error (.unknownField f.name) :=
        Registry.field_eq_error_iff.2 ⟨absent, rfl⟩
      simp only [Registry.cells, unknown]
  | crowded field some member named vector few =>
      have found : r.field f.name = .ok field := Registry.field_eq_ok_iff.2 ⟨member, named⟩
      have crowded : field.isVector = false ∨ field.columns.length < (e.values f).length := by
        cases axial : field.isVector with
        | false => exact .inl rfl
        | true =>
            rw [Field.length_columns_of_isVector axial]
            exact .inr (few.resolve_left (Field.isVector_iff.1 axial))
      rw [reading?_vector vector some] at present
      cases present
      simp only [Registry.cells, found, if_pos crowded]

/-- The first present field that has no place decides the error. -/
theorem allCells_of_misplaced {before after : List EntryField}
    (placed : ∀ g ∈ before, e.values g ≠ [] → ∃ field, e.Placed r.fields g field)
    (misplaced : e.Misplaced r.fields f cause) :
    r.allCells (e.readingsAmong (before ++ f :: after)) = .error cause := by
  induction before with
  | nil =>
      obtain ⟨reading, present⟩ := exists_reading misplaced.present
      rw [List.nil_append, readingsAmong_of_present present]
      simp only [Registry.allCells, misplaced.cells_eq present]
  | cons g before ih =>
      rw [List.forall_mem_cons] at placed
      obtain ⟨here, later⟩ := placed
      rw [List.cons_append]
      by_cases absent : e.values g = []
      · rw [readingsAmong_of_absent absent]
        exact ih later
      · obtain ⟨field, place⟩ := here absent
        obtain ⟨reading, present⟩ := exists_reading absent
        rw [readingsAmong_of_present present]
        simp only [Registry.allCells, place.cells_eq present, ih later]

/-- Either all present fields have their places, or there is a first one that has none. -/
theorem placed_or_first_misplaced (e : LogEntry) (fields : List Field) (fs : List EntryField) :
    (∀ f ∈ fs, e.values f ≠ [] → ∃ field, e.Placed fields f field) ∨
      ∃ before f after cause, fs = before ++ f :: after ∧
        (∀ g ∈ before, e.values g ≠ [] → ∃ field, e.Placed fields g field) ∧ e.Misplaced fields f cause := by
  induction fs with
  | nil => exact .inl (fun _ member => nomatch member)
  | cons f fs ih =>
      by_cases placed : e.values f ≠ [] → ∃ field, e.Placed fields f field
      · rcases ih with all | ⟨before, g, after, cause, rfl, earlier, misplaced⟩
        · exact .inl (List.forall_mem_cons.2 ⟨placed, all⟩)
        · exact .inr ⟨f :: before, g, after, cause, rfl, List.forall_mem_cons.2 ⟨placed, earlier⟩, misplaced⟩
      · rw [Classical.not_imp] at placed
        obtain ⟨present, homeless⟩ := placed
        obtain ⟨cause, misplaced⟩ := (placed_or_misplaced present fields).resolve_left homeless
        exact .inr ⟨[], f, fs, cause, rfl, nofun, misplaced⟩

/-- The cells of an entry whose fields have their places in the given fields of a registry: the columns of each place
    with the numbers of the field, in message order. -/
def cellsIn (e : LogEntry) (owner : EntryField → Field) : List (String × Int) :=
  EntryField.all.flatMap fun f => (owner f).columns.zip (e.values f)

theorem values_timestamp_ne_nil_iff : e.values .timestamp ≠ [] ↔ e.timestamp ≠ none := by
  simp only [values, words, ne_eq, List.map_eq_nil_iff, Option.toList_eq_nil_iff]

/-- The places of all present fields in one function. An absent field has no place; that of the timestamp stands in. -/
theorem exists_owner {fields : List Field} (stamped : e.timestamp ≠ none)
    (placed : ∀ f, e.values f ≠ [] → ∃ field, e.Placed fields f field) :
    ∃ owner : EntryField → Field, ∀ f, e.values f ≠ [] → e.Placed fields f (owner f) := by
  obtain ⟨stamp, -⟩ := placed .timestamp (values_timestamp_ne_nil_iff.2 stamped)
  have owned (f : EntryField) : ∃ field, e.values f ≠ [] → e.Placed fields f field := by
    by_cases present : e.values f ≠ []
    · obtain ⟨field, place⟩ := placed f present
      exact ⟨field, fun _ => place⟩
    · exact ⟨stamp, fun some => absurd some present⟩
  choose owner place using owned
  exact ⟨owner, place⟩

end LogEntry

namespace Registry

variable {r : Registry} {e : LogEntry} {record : Record} {owner : EntryField → Field} {cause : SchemaError}

open LogEntry

theorem columnize_of_unstamped (unstamped : e.timestamp = none) :
    r.columnize e = .error (.missingField timestampName) := by
  rw [columnize, unstamped, Option.isNone_none, if_pos rfl]

theorem columnize_of_placed (stamped : e.timestamp ≠ none)
    (placed : ∀ f, e.values f ≠ [] → e.Placed r.fields f (owner f)) :
    r.columnize e = .ok ⟨e.cellsIn owner⟩ := by
  have cells : r.allCells (e.readingsAmong EntryField.all) = .ok (e.cellsIn owner) :=
    allCells_of_placed fun f _ => placed f
  rw [columnize_of_stamped stamped, cells]

theorem columnize_of_misplaced {before after : List EntryField} {f : EntryField} (stamped : e.timestamp ≠ none)
    (split : EntryField.all = before ++ f :: after)
    (placed : ∀ g ∈ before, e.values g ≠ [] → ∃ field, e.Placed r.fields g field)
    (misplaced : e.Misplaced r.fields f cause) : r.columnize e = .error cause := by
  have failed : r.allCells (e.readingsAmong (before ++ f :: after)) = .error cause :=
    allCells_of_misplaced placed misplaced
  rw [columnize_of_stamped stamped, split, failed]

/-- An entry has no timestamp, or all its fields have their places, or there is a first one that has none. -/
theorem columnize_cases (r : Registry) (e : LogEntry) :
    (e.timestamp = none ∧ r.columnize e = .error (.missingField timestampName)) ∨
      (e.timestamp ≠ none ∧ ∃ owner : EntryField → Field,
        (∀ f, e.values f ≠ [] → e.Placed r.fields f (owner f)) ∧ r.columnize e = .ok ⟨e.cellsIn owner⟩) ∨
      (e.timestamp ≠ none ∧ ∃ before f after cause, EntryField.all = before ++ f :: after ∧
        (∀ g ∈ before, e.values g ≠ [] → ∃ field, e.Placed r.fields g field) ∧
        e.Misplaced r.fields f cause ∧ r.columnize e = .error cause) := by
  by_cases stamped : e.timestamp = none
  · exact .inl ⟨stamped, columnize_of_unstamped stamped⟩
  · refine .inr ?_
    rcases placed_or_first_misplaced e r.fields EntryField.all with
      all | ⟨before, f, after, cause, split, placed, misplaced⟩
    · obtain ⟨owner, placed⟩ := exists_owner stamped fun f => all f f.mem_all
      exact .inl ⟨stamped, owner, placed, columnize_of_placed stamped placed⟩
    · exact .inr ⟨stamped, before, f, after, cause, split, placed, misplaced,
        columnize_of_misplaced stamped split placed misplaced⟩

theorem columnize_eq_ok_iff :
    r.columnize e = .ok record ↔ e.timestamp ≠ none ∧ ∃ owner : EntryField → Field,
      (∀ f, e.values f ≠ [] → e.Placed r.fields f (owner f)) ∧ record = ⟨e.cellsIn owner⟩ := by
  constructor
  · intro columnized
    rcases columnize_cases r e with
      ⟨-, failed⟩ | ⟨stamped, owner, placed, cells⟩ | ⟨-, before, f, after, cause, -, -, -, failed⟩
    · rw [failed] at columnized
      cases columnized
    · rw [cells] at columnized
      cases columnized
      exact ⟨stamped, owner, placed, rfl⟩
    · rw [failed] at columnized
      cases columnized
  · rintro ⟨stamped, owner, placed, rfl⟩
    exact columnize_of_placed stamped placed

theorem columnize_eq_error_iff :
    r.columnize e = .error cause ↔
      (e.timestamp = none ∧ cause = .missingField timestampName) ∨
      (e.timestamp ≠ none ∧ ∃ before f after, EntryField.all = before ++ f :: after ∧
        (∀ g ∈ before, e.values g ≠ [] → ∃ field, e.Placed r.fields g field) ∧
        e.Misplaced r.fields f cause) := by
  constructor
  · intro failed
    rcases columnize_cases r e with
      ⟨unstamped, missing⟩ | ⟨-, owner, -, record⟩ |
      ⟨stamped, before, f, after, cause', split, placed, misplaced, first⟩
    · rw [missing] at failed
      cases failed
      exact .inl ⟨unstamped, rfl⟩
    · rw [record] at failed
      cases failed
    · rw [first] at failed
      cases failed
      exact .inr ⟨stamped, before, f, after, split, placed, misplaced⟩
  · rintro (⟨unstamped, rfl⟩ | ⟨stamped, before, f, after, split, placed, misplaced⟩)
    · exact columnize_of_unstamped unstamped
    · exact columnize_of_misplaced stamped split placed misplaced

/-! ## The cells of a record -/

/-- A column in a place leads back to the field whose place it is. -/
theorem fieldOfColumn_of_placed {f : EntryField} {field : Field} (placed : e.Placed r.fields f field)
    {cell : String × Int} (member : cell ∈ field.columns.zip (e.values f)) :
    r.fieldOfColumn cell.1 = .ok field :=
  fieldOfColumn_eq_ok_iff.2 ⟨placed.1, (List.of_mem_zip member).1⟩

/-- No value is without a column. -/
theorem values_cellsIn (placed : ∀ f, e.values f ≠ [] → e.Placed r.fields f (owner f)) :
    (e.cellsIn owner).map (·.2) = EntryField.all.flatMap e.values := by
  rw [cellsIn, List.map_flatMap]
  congr 1
  funext f
  apply List.map_snd_zip
  by_cases absent : e.values f = []
  · rw [absent]
    exact Nat.zero_le _
  · exact (placed f absent).length_le

theorem columns_sublist (columns : List String) (values : List Int) :
    ((columns.zip values).map (·.1)).Sublist columns := by
  rw [List.zip_eq_zip_take_min, List.map_fst_zip]
  · exact List.take_sublist _ _
  · simp only [List.length_take]
    omega

/-- Two fields of an entry share no column, as their places are in fields of different names. -/
theorem nodup_columns_of_placed (placed : ∀ f, e.values f ≠ [] → e.Placed r.fields f (owner f)) :
    ((e.cellsIn owner).map (·.1)).Nodup := by
  rw [cellsIn, List.map_flatMap, List.nodup_flatMap]
  have place {f : EntryField} {cell : String × Int} (member : cell ∈ (owner f).columns.zip (e.values f)) :
      e.Placed r.fields f (owner f) :=
    placed f (List.ne_nil_of_mem (List.of_mem_zip member).2)
  constructor
  · intro f _
    by_cases absent : e.values f = []
    · rw [absent, List.zip_nil_right]
      exact .nil
    · have own := (List.nodup_flatMap.1 r.nodup_columns).1 _ (placed f absent).1
      exact own.sublist (columns_sublist _ _)
  · refine List.Pairwise.imp ?_ EntryField.nodup_all
    intro f g other column first second
    obtain ⟨cell, here, rfl⟩ := List.mem_map.1 first
    obtain ⟨cell', there, same⟩ := List.mem_map.1 second
    have owned := fieldOfColumn_of_placed (place here) here
    rw [← same, fieldOfColumn_of_placed (place there) there, Except.ok.injEq] at owned
    apply other
    apply EntryField.name_injective
    rw [← (place here).2.1, ← (place there).2.1, owned]

/-- An entry has a record exactly when it has a timestamp and all its fields have their places. The record has the
    numbers of the entry in message order, each under a column of its own that leads back to the field whose place
    it is. Otherwise the timestamp is missing, or the first field without a place is named with what is wrong. -/
theorem columnize_exact {fields : List Field} {r : Registry} (accepted : ofFields? fields = .ok r) (e : LogEntry) :
    ((∃ record, r.columnize e = .ok record) ↔
      e.timestamp ≠ none ∧ ∀ f, e.values f ≠ [] → ∃ field, e.Placed fields f field) ∧
    (∀ record, r.columnize e = .ok record → ∃ owner : EntryField → Field,
      (∀ f, e.values f ≠ [] → e.Placed fields f (owner f)) ∧
      record.cells = e.cellsIn owner ∧
      record.values = EntryField.all.flatMap e.values ∧
      record.columns.Nodup ∧
      ∀ f, ∀ cell ∈ (owner f).columns.zip (e.values f), r.fieldOfColumn cell.1 = .ok (owner f)) ∧
    ∀ cause, r.columnize e = .error cause ↔
      (e.timestamp = none ∧ cause = .missingField timestampName) ∨
      (e.timestamp ≠ none ∧ ∃ before f after, EntryField.all = before ++ f :: after ∧
        (∀ g ∈ before, e.values g ≠ [] → ∃ field, e.Placed fields g field) ∧
        e.Misplaced fields f cause) := by
  obtain rfl := ofFields?_eq_ok_iff.1 accepted
  refine ⟨?_, ?_, fun cause => columnize_eq_error_iff⟩
  · constructor
    · rintro ⟨record, columnized⟩
      obtain ⟨stamped, owner, placed, -⟩ := columnize_eq_ok_iff.1 columnized
      exact ⟨stamped, fun f present => ⟨owner f, placed f present⟩⟩
    · rintro ⟨stamped, placed⟩
      obtain ⟨owner, placed⟩ := exists_owner stamped placed
      exact ⟨_, columnize_of_placed stamped placed⟩
  · intro record columnized
    obtain ⟨-, owner, placed, rfl⟩ := columnize_eq_ok_iff.1 columnized
    refine ⟨owner, placed, rfl, values_cellsIn placed, nodup_columns_of_placed placed, ?_⟩
    intro f cell member
    have present : e.values f ≠ [] := List.ne_nil_of_mem (List.of_mem_zip member).2
    exact fieldOfColumn_of_placed (placed f present) member

/-- A timestamp may have a place with axes. The pressure has no place, and comes before the compass that has one
    value too many. -/
theorem columnize_exact_pressure :
    ∃ r, ofFields? [{ Field.timestamp with axes := ["s", "ms"] }, Field.compass] = .ok r ∧
      r.columnize { timestamp := some 5, pressure := some 9, compass := [1, 2, 3, 4] } =
        .error (.unknownField "pressure") := by
  let r : Registry :=
    ⟨[{ Field.timestamp with axes := ["s", "ms"] }, Field.compass], by decide, by decide, by decide⟩
  have accepted : ofFields? r.fields = .ok r := ofFields?_eq_ok_iff.2 rfl
  refine ⟨r, accepted, ?_⟩
  refine ((columnize_exact accepted _).2.2 _).2 (.inr ⟨nofun, ?_⟩)
  refine ⟨[.timestamp], .pressure, EntryField.all.drop 2, rfl, ?_, .unknown nofun ?_⟩
  · intro g first _
    rw [List.mem_singleton.1 first]
    exact ⟨{ Field.timestamp with axes := ["s", "ms"] }, List.mem_cons_self, rfl, nofun⟩
  · intro field member
    rcases List.mem_pair.1 member with rfl | rfl <;> decide

/-- The single value of the timestamp stands under its first axis, and an axis without a value has no cell. -/
example :
    (do
      let r ← ofFields? [{ Field.timestamp with axes := ["s", "ms"] }, Field.compass]
      r.columnize { timestamp := some 5, compass := [7, -2] }) =
        .ok ⟨[("TS_s", 5), ("m_x", 7), ("m_y", -2)]⟩ := by
  rfl

/-! ## The records of payloads -/

theorem decode_eq_ok_iff {payload : Bytes} :
    r.codec.decode payload = .ok record ↔ ∃ e, LogEntry.decode payload = .ok e ∧ r.columnize e = .ok record := by
  simp only [codec]
  cases LogEntry.decode payload with
  | error error => simp only [reduceCtorEq, false_and, exists_false]
  | ok e => simp only [Except.ok.injEq, exists_eq_left']

theorem decode_eq_error_iff {payload : Bytes} :
    r.codec.decode payload = .error cause ↔
      (∃ error, LogEntry.decode payload = .error error ∧ cause = .malformed error) ∨
      ∃ e, LogEntry.decode payload = .ok e ∧ r.columnize e = .error cause := by
  simp only [codec]
  cases LogEntry.decode payload with
  | error error => simp [eq_comm]
  | ok e => simp

/-- Every column of a decoded record belongs to a field of the registry. -/
theorem owned_of_decode {payload : Bytes} (decoded : r.codec.decode payload = .ok record) :
    ∀ cell ∈ record.cells, ∃ field ∈ r.fields, cell.1 ∈ field.columns := by
  obtain ⟨e, -, columnized⟩ := decode_eq_ok_iff.1 decoded
  obtain ⟨-, owner, placed, rfl⟩ := columnize_eq_ok_iff.1 columnized
  intro cell member
  obtain ⟨f, -, inPlace⟩ := List.mem_flatMap.1 member
  obtain ⟨column, value⟩ := List.of_mem_zip inPlace
  exact ⟨owner f, (placed f (List.ne_nil_of_mem value)).1, column⟩

/-- What can be wrong with a payload: it is no entry, it has no timestamp, or one of its fields has no place. -/
theorem error_of_decode {payload : Bytes} (failed : r.codec.decode payload = .error cause) :
    (∃ error, cause = .malformed error) ∨ cause = .missingField timestampName ∨
      ∃ (e : LogEntry) (f : EntryField), e.Misplaced r.fields f cause := by
  rcases decode_eq_error_iff.1 failed with ⟨error, -, rfl⟩ | ⟨e, -, failed⟩
  · exact .inl ⟨error, rfl⟩
  · rcases columnize_eq_error_iff.1 failed with ⟨-, rfl⟩ | ⟨-, before, f, after, -, -, misplaced⟩
    · exact .inr (.inl rfl)
    · exact .inr (.inr ⟨e, f, misplaced⟩)

/-- Decoding never asks for the owner of a column. -/
theorem decode_ne_unknownColumn (r : Registry) (payload : Bytes) (column : String) :
    r.codec.decode payload ≠ .error (.unknownColumn column) := by
  intro failed
  rcases error_of_decode failed with ⟨error, malformed⟩ | missing | ⟨e, f, misplaced⟩
  · cases malformed
  · cases missing
  · cases misplaced

end Registry

end SensorLog
