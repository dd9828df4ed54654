import SensorLog.Proofs.Entry.RoundTrip
import SensorLog.Proofs.Record.Lookup
import SensorLog.Schema.Builtin

/-!
# The columns of log entries

`EntryField.columns` and `LogEntry.values` say in one place each under which columns the fields of an
entry are shown and which numbers stand there. The codec of the built-in registry gives these cells,
in message order, for every entry that its encoder can write (`decode_encode_builtin`).
-/

namespace SensorLog

/-- The columns of a field in the built-in registry. -/
def EntryField.columns : EntryField → List String
  | .timestamp => ["TS"]
  | .pressure => ["p"]
  | .rh => ["rh"]
  | .temperature => ["t"]
  | .compass => ["m_x", "m_y", "m_z"]
  | .accelerometer => ["a_x", "a_y", "a_z"]
  | .gyro => ["g_x", "g_y", "g_z"]
  | .lux => ["L"]
  | .uvi => ["UVi"]
  | .batteryMv => ["bat"]
  | .gpio0Mv => ["gp0"]
  | .gpio1Mv => ["gp1"]
  | .intGpio0 => ["int0"]
  | .intGpio1 => ["int1"]
  | .intAcc => ["iacc1"]

namespace LogEntry

/-- The numbers of a field; none when it is absent. -/
def values (e : LogEntry) : EntryField → List Int
  | .temperature => e.temperature.toList.map (·.toInt)
  | .compass => e.compass.map (·.toInt)
  | .accelerometer => e.accelerometer.map (·.toInt)
  | .gyro => e.gyro.map (·.toInt)
  | f => (e.words f).map fun w => Int.ofNat w.toNat

/-- The cells of an entry: the columns of its present fields with their numbers, in message order. -/
def cells (e : LogEntry) : List (String × Int) :=
  EntryField.all.flatMap fun f => f.columns.zip (e.values f)

/-! ## Numbers and readings -/

theorem toInt_unzigzag_comp_zigzag : (fun w => (unzigzag w).toInt) ∘ zigzag = (·.toInt) :=
  funext fun v => congrArg Int32.toInt (unzigzag_zigzag v)

theorem values_vector (e : LogEntry) {f : EntryField} (vector : f.isVector = true) :
    (e.words f).map (fun w => (unzigzag w).toInt) = e.values f := by
  cases f with
  | compass | accelerometer | gyro =>
      simp only [words, values, List.map_map, toInt_unzigzag_comp_zigzag]
  | _ => cases vector

theorem values_single (e : LogEntry) {f : EntryField} (single : f.isVector = false) :
    (e.words f).map (fun w => if f = .temperature then (unzigzag w).toInt else Int.ofNat w.toNat)
      = e.values f := by
  cases f with
  | compass | accelerometer | gyro => cases single
  | temperature => simp only [if_true, words, values, List.map_map, toInt_unzigzag_comp_zigzag]
  | _ => rfl

theorem length_values (e : LogEntry) (f : EntryField) : (e.values f).length = (e.words f).length := by
  cases vector : f.isVector with
  | true => rw [← values_vector e vector, List.length_map]
  | false => rw [← values_single e vector, List.length_map]

theorem reading?_eq_none_iff {e : LogEntry} {f : EntryField} : e.reading? f = none ↔ e.values f = [] := by
  rw [reading?, readingOf_eq_none, ← List.length_eq_zero_iff, ← List.length_eq_zero_iff, length_values]

theorem length_values_le (e : LogEntry) {f : EntryField} (single : f.isVector = false) :
    (e.values f).length ≤ 1 := by
  cases f with
  | compass | accelerometer | gyro => cases single
  | _ => simp only [values, words, List.length_map, Option.length_toList]; split <;> simp

theorem reading?_vector {e : LogEntry} {f : EntryField} (vector : f.isVector = true)
    (present : e.values f ≠ []) : e.reading? f = some (.vector (e.values f)) := by
  have filled : (e.words f).isEmpty = false := by
    rw [List.isEmpty_eq_false_iff, ← List.length_pos_iff, ← length_values, List.length_pos_iff]
    exact present
  simp only [reading?, readingOf, vector, if_true, filled, Bool.false_eq_true, if_false, values_vector]

theorem reading?_single {e : LogEntry} {f : EntryField} (single : f.isVector = false) {v : Int}
    (one : e.values f = [v]) : e.reading? f = some (.scalar v) := by
  have values := values_single e single
  rw [one, List.map_eq_singleton_iff] at values
  obtain ⟨w, word, rfl⟩ := values
  simp only [reading?, readingOf, single, word, Bool.false_eq_true, if_false, List.getLast?_singleton,
    Option.map_some]

/-! ## The place of a field -/

/-- A field of an entry has its place in a field of the registry: it has the same name, and for a vector at least
    as many axes as there are values. -/
def Placed (e : LogEntry) (fields : List Field) (f : EntryField) (field : Field) : Prop :=
  field ∈ fields ∧ field.name = f.name ∧
    (f.isVector = true → field.axes ≠ [] ∧ (e.values f).length ≤ field.axes.length)

/-- The present ones among some fields, with their readings. -/
def readingsAmong (e : LogEntry) (fs : List EntryField) : List (EntryField × Reading) :=
  fs.filterMap fun f => (e.reading? f).map fun reading => (f, reading)

variable {e : LogEntry} {r : Registry} {f : EntryField} {field : Field}

theorem readingsAmong_of_absent (absent : e.values f = []) (fs : List EntryField) :
    e.readingsAmong (f :: fs) = e.readingsAmong fs := by
  rw [readingsAmong, List.filterMap_cons_none]
  · rfl
  · rw [reading?_eq_none_iff.2 absent, Option.map_none]

theorem readingsAmong_of_present {reading : Reading} (present : e.reading? f = some reading)
    (fs : List EntryField) : e.readingsAmong (f :: fs) = (f, reading) :: e.readingsAmong fs := by
  rw [readingsAmong, List.filterMap_cons_some]
  · rfl
  · rw [present, Option.map_some]

theorem exists_reading (present : e.values f ≠ []) : ∃ reading, e.reading? f = some reading :=
  Option.ne_none_iff_exists'.1 fun none => present (reading?_eq_none_iff.1 none)

/-- Where a field has its place there is a column for each of its values. -/
theorem Placed.length_le (placed : e.Placed r.fields f field) :
    (e.values f).length ≤ field.columns.length := by
  obtain ⟨-, -, room⟩ := placed
  cases vector : f.isVector with
  | true =>
      obtain ⟨axes, enough⟩ := room vector
      rwa [Field.length_columns_of_isVector (Field.isVector_iff.2 axes)]
  | false =>
      have some : 0 < field.columns.length := List.length_pos_iff.2 (List.ne_nil_of_mem field.firstColumn_mem)
      exact Nat.le_trans (e.length_values_le vector) some

theorem Placed.cells_eq (placed : e.Placed r.fields f field) {reading : Reading}
    (present : e.reading? f = some reading) :
    r.cells f reading = .ok (field.columns.zip (e.values f)) := by
  obtain ⟨member, named, room⟩ := placed
  have found : r.field f.name = .ok field := Registry.field_eq_ok_iff.2 ⟨member, named⟩
  have some : e.values f ≠ [] := by
    intro absent
    rw [reading?_eq_none_iff.2 absent] at present
    cases present
  cases vector : f.isVector with
  | true =>
      obtain ⟨axes, enough⟩ := room vector
      have axial : field.isVector = true := Field.isVector_iff.2 axes
      rw [reading?_vector vector some] at present
      cases present
      simp only [Registry.cells, found, axial, Field.length_columns_of_isVector axial, Bool.true_eq_false,
        false_or, if_neg (Nat.not_lt.2 enough)]
  | false =>
      have one : (e.values f).length = 1 :=
        Nat.le_antisymm (e.length_values_le vector) (List.length_pos_iff.2 some)
      obtain ⟨v, one⟩ := List.length_eq_one_iff.1 one
      rw [reading?_single vector one] at present
      cases present
      obtain ⟨more, columns⟩ := List.head?_eq_some_iff.1 field.head?_columns
      simp only [Registry.cells, found, one, columns, List.zip_cons_cons, List.zip_nil_right]

/-- The cells of the present fields, one field after another, when each of them has its place. -/
theorem allCells_of_placed {owner : EntryField → Field} {fs : List EntryField}
    (placed : ∀ f ∈ fs, e.values f ≠ [] → e.Placed r.fields f (owner f)) :
    r.allCells (e.readingsAmong fs) = .ok (fs.flatMap fun f => (owner f).columns.zip (e.values f)) := by
  induction fs with
  | nil => rfl
  | cons f fs ih =>
      rw [List.forall_mem_cons] at placed
      obtain ⟨here, later⟩ := placed
      rw [List.flatMap_cons]
      by_cases absent : e.values f = []
      · rw [readingsAmong_of_absent absent, absent, List.zip_nil_right]
        exact ih later
      · obtain ⟨reading, present⟩ := exists_reading absent
        rw [readingsAmong_of_present present]
        simp only [Registry.allCells, (here absent).cells_eq present, ih later]

end LogEntry

/-- The record of an entry with a timestamp has the cells of all present fields. -/
theorem Registry.columnize_of_stamped {r : Registry} {e : LogEntry} (stamped : e.timestamp ≠ none) :
    r.columnize e = match r.allCells (e.readingsAmong EntryField.all) with
      | .error cause => .error cause
      | .ok cells => .ok ⟨cells⟩ := by
  rw [columnize, if_neg (mt Option.isNone_iff_eq_none.1 stamped)]
  rfl

/-! ## The built-in registry -/

/-- The built-in field of a field of the message. -/
def EntryField.builtin : EntryField → Field
  | .timestamp => Field.timestamp
  | .pressure => Field.pressure
  | .rh => Field.rh
  | .temperature => Field.temperature
  | .compass => Field.compass
  | .accelerometer => Field.accelerometer
  | .gyro => Field.gyro
  | .lux => Field.lux
  | .uvi => Field.uvi
  | .batteryMv => Field.battery
  | .gpio0Mv => Field.gpio0
  | .gpio1Mv => Field.gpio1
  | .intGpio0 => Field.interrupt0
  | .intGpio1 => Field.interrupt1
  | .intAcc => Field.interruptAcc

namespace EntryField

theorem field_builtin (f : EntryField) : Registry.builtin.field f.name = .ok f.builtin := by
  cases f <;> rfl

theorem columns_builtin (f : EntryField) : f.builtin.columns = f.columns := by
  cases f <;> rfl

theorem isVector_builtin (f : EntryField) : f.builtin.isVector = f.isVector := by
  cases f <;> rfl

theorem length_columns (f : EntryField) : f.columns.length = f.axes := by
  cases f <;> rfl

end EntryField

namespace LogEntry

variable {e : LogEntry}

/-- In the built-in registry every field has its place. -/
theorem placed_builtin (fits : e.FitsAxes) (f : EntryField) : e.Placed Registry.builtin.fields f f.builtin := by
  obtain ⟨member, named⟩ := Registry.field_eq_ok_iff.1 f.field_builtin
  refine ⟨member, named, ?_⟩
  intro vector
  have axial : f.builtin.isVector = true := by rw [f.isVector_builtin, vector]
  constructor
  · exact Field.isVector_iff.1 axial
  · rw [← Field.length_columns_of_isVector axial, f.columns_builtin, e.length_values, f.length_columns]
    exact fits.words f

theorem allCells_builtin (fits : e.FitsAxes) :
    Registry.builtin.allCells (e.readingsAmong EntryField.all) = .ok e.cells := by
  have placed : Registry.builtin.allCells (e.readingsAmong EntryField.all) =
      .ok (EntryField.all.flatMap fun f => f.builtin.columns.zip (e.values f)) :=
    allCells_of_placed fun f _ _ => placed_builtin fits f
  simp only [EntryField.columns_builtin] at placed
  exact placed

/-- What the codec of the built-in registry gives for a written entry. -/
theorem decode_encode_builtin (fits : e.FitsAxes) (stamped : e.timestamp.isSome) :
    Registry.builtin.codec.decode e.encode = .ok ⟨e.cells⟩ := by
  have back := decode_encode fun f => EntryField.writable_of_axes (fits.words f)
  have present : e.timestamp ≠ none := Option.isSome_iff_ne_none.1 stamped
  simp only [Registry.codec, back, Registry.columnize_of_stamped present, allCells_builtin fits]

/-- The columns that an entry is shown in. -/
def columns (e : LogEntry) : List String :=
  e.cells.map (·.1)

theorem values_timestamp {stamp : UInt32} (stamped : e.timestamp = some stamp) :
    e.values .timestamp = [Int.ofNat stamp.toNat] := by
  simp only [values, words, stamped]
  rfl

/-- The first cell of an entry is its timestamp. -/
theorem cells_of_stamped {stamp : UInt32} (stamped : e.timestamp = some stamp) :
    e.cells = ("TS", Int.ofNat stamp.toNat) :: EntryField.all.tail.flatMap fun f => f.columns.zip (e.values f) := by
  have split : EntryField.all = .timestamp :: EntryField.all.tail := rfl
  rw [cells, split, List.flatMap_cons, values_timestamp stamped]
  rfl

/-- An entry as a logger sends it: a timestamp, at least one reading, and a value per axis at most. -/
structure IsLogged (e : LogEntry) : Prop where
  stamped : e.timestamp.isSome = true
  reading : ∃ f, f ≠ .timestamp ∧ e.words f ≠ []
  fits : e.FitsAxes

/-- A timestamp with a reading has two cells at least, so it does not end the log. -/
theorem IsLogged.isEndOfLog_eq (logged : e.IsLogged) : (Record.mk e.cells).isEndOfLog = false := by
  obtain ⟨f, other, present⟩ := logged.reading
  obtain ⟨stamp, stamped⟩ := Option.isSome_iff_exists.1 logged.stamped
  have later : f ∈ EntryField.all.tail := by
    cases f with
    | timestamp => exact absurd rfl other
    | _ => decide
  have some : EntryField.all.tail.flatMap (fun f => f.columns.zip (e.values f)) ≠ [] := by
    intro nothing
    have none := congrArg List.length (List.flatMap_eq_nil_iff.1 nothing f later)
    have values : (e.values f).length ≠ 0 := by
      rw [e.length_values]
      intro zero
      apply present
      exact List.eq_nil_of_length_eq_zero zero
    have columns : f.columns.length ≠ 0 := by
      rw [f.length_columns]
      cases f <;> decide
    rw [List.length_zip, List.length_nil] at none
    omega
  have positive := List.length_pos_iff.2 some
  rw [Record.isEndOfLog, Record.size, cells_of_stamped stamped, List.length_cons, beq_eq_false_iff_ne]
  omega

end LogEntry

end SensorLog
