import SensorLog.Proofs.Record.Placement
import SensorLog.Proofs.Transfer.Faults
import SensorLog.Proofs.Transfer.Lockstep

/-!
# Raw readings and units

A transfer that writes quantities runs in step with the one that writes raw readings: the same results, and
row by row the same columns with every reading in the unit of its column (`run_inUnits`). It needs that no
column is without a field when it is to be converted, which holds because codec and conversion share one
registry (`not_fault_unknownColumn`).
-/

namespace SensorLog

variable {σ τ : Type}

/-- A raw reading of a column, and what the field of the column makes of it. -/
def Registry.Converts (registry : Registry) (cell : String × Value) (value : Value) : Prop :=
  ∃ reading field, cell.2 = .int reading ∧ registry.fieldOfColumn cell.1 = .ok field ∧
    value = .real (field.toUnit (floatOfReading reading))

/-- A row of raw readings, and the same row in units. -/
structure Row.InUnits (registry : Registry) (raw converted : Row) : Prop where
  columns : converted.columns = raw.columns
  header : converted.header = raw.header
  width : raw.values.length = raw.columns.length
  values : List.Forall₂ registry.Converts (raw.columns.zip raw.values) converted.values

namespace Setup

variable {setup : Setup}

/-- Readings in columns of the registry have values in units. -/
theorem mapM_value_of_units (units : setup.settings.raw = false) {cells : List (String × Int)}
    (owned : ∀ cell ∈ cells, ∃ field ∈ setup.registry.fields, cell.1 ∈ field.columns) :
    ∃ values, cells.mapM setup.value = .ok values ∧
      List.Forall₂ setup.registry.Converts
        ((cells.map (·.1)).zip (cells.map fun cell => .int cell.2)) values := by
  induction cells with
  | nil => exact ⟨[], rfl, .nil⟩
  | cons cell rest ih =>
      obtain ⟨field, known, owns⟩ := owned cell (.head _)
      obtain ⟨values, converted, alike⟩ := ih fun other member => owned other (.tail _ member)
      have found : setup.registry.fieldOfColumn cell.1 = .ok field :=
        Registry.fieldOfColumn_eq_ok_iff.2 ⟨known, owns⟩
      have first : setup.value cell = .ok (.real (field.toUnit (floatOfReading cell.2))) := by
        rw [value, units, Registry.toUnit_of_owner found]
        rfl
      refine ⟨.real (field.toUnit (floatOfReading cell.2)) :: values, ?_, ?_⟩
      · rw [List.mapM_cons, first, converted]
        rfl
      · exact .cons ⟨cell.2, field, rfl, found, rfl⟩ alike

/-- Codec and conversion of one registry know all of its columns, so every decoded record has its values. -/
theorem converts_of_decode {registry : Registry} (settings : Settings) {payload : Bytes} {record : Record}
    (decoded : registry.codec.decode payload = .ok record) :
    ∃ values, record.cells.mapM (Setup.mk settings registry registry.codec).value = .ok values := by
  cases raw : settings.raw with
  | true => exact ⟨_, mapM_value_of_raw raw _⟩
  | false =>
      have units : (Setup.mk settings registry registry.codec).settings.raw = false := raw
      obtain ⟨values, converted, -⟩ := mapM_value_of_units units (Registry.owned_of_decode decoded)
      exact ⟨values, converted⟩

theorem not_fault_unknownColumn {registry : Registry} (settings : Settings) (column : String) :
    ¬ (Setup.mk settings registry registry.codec).Fault (.schema (.unknownColumn column)) := by
  intro fault
  cases fault with
  | mismatch failed final => exact registry.decode_ne_unknownColumn _ column failed
  | unknownColumn decoded unknown =>
      obtain ⟨values, converted⟩ := converts_of_decode settings decoded
      rw [converted] at unknown
      cases unknown

/-- Raw and converted rows of the same registry. -/
theorem matches_units (settings : Settings) (registry : Registry) :
    Setup.Matches (Row.InUnits registry) ⟨{ settings with raw := true }, registry, registry.codec⟩
      ⟨{ settings with raw := false }, registry, registry.codec⟩ where
  codec := rfl
  values := by
    intro payload record decoded
    let units : Setup := ⟨{ settings with raw := false }, registry, registry.codec⟩
    have unraw : units.settings.raw = false := rfl
    obtain ⟨values, converted, alike⟩ := mapM_value_of_units unraw (Registry.owned_of_decode decoded)
    refine .inr ⟨_, values, mapM_value_of_raw rfl record.cells, converted, ?_⟩
    intro header
    exact ⟨rfl, rfl, by simp only [Record.columns, List.length_map], alike⟩

end Setup

namespace Transfer

variable [RowSink σ] [RowSink τ]

/-- No call on a transfer of log entries finds a column without a field. -/
theorem unknownColumn_notMem_run (settings : Settings) (registry : Registry) (sink : σ) (calls : List Call)
    (column : String) :
    .error (.frame (.schema (.unknownColumn column))) ∉ ((new settings registry sink).run calls).results := by
  intro failed
  have sound : Sound settings.plan (new settings registry sink) := .fresh settings registry registry.codec sink
  rcases sound.fault_of_run failed with fault | ⟨capacity, full⟩
  · exact Setup.not_fault_unknownColumn settings column fault
  · cases full

/-! ## Both kinds of rows -/

/-- Transfers that differ in writing raw readings or quantities give the same results, errors included. Their
    rows have the same columns and header marks in the same order, and where one has a reading the other has
    what the field of the column makes of it. No column is without a field. -/
theorem run_inUnits (settings : Settings) (registry : Registry) {sink : σ} {sink' : τ}
    (faithful : RowSink.NeverFails sink) (faithful' : RowSink.NeverFails sink') (calls : List Call) :
    let raw := new { settings with raw := true } registry sink
    let converted := new { settings with raw := false } registry sink'
    (converted.run calls).results = (raw.run calls).results ∧
      List.Forall₂ (Row.InUnits registry) (raw.rowsAfter calls) (converted.rowsAfter calls) ∧
      ∀ column, .error (.frame (.schema (.unknownColumn column))) ∉ (converted.run calls).results := by
  intro raw converted
  have together : InStep (Row.InUnits registry) raw.noted converted.noted :=
    .fresh faithful faithful' rfl rfl rfl (Setup.matches_units settings registry)
  obtain ⟨results, after⟩ := together.run rfl calls
  rw [results_noted, results_noted] at results
  exact ⟨results, after.rows, unknownColumn_notMem_run _ registry sink' calls⟩

/-- A reading of the pressure, with its two last packets swapped, and the end of the log. -/
theorem run_inUnits_pressure :
    let raw := new { raw := true } .builtin ({} : RowList)
    let converted := new { raw := false } .builtin ({} : RowList)
    let calls : List Call := [.feed [4, 8], .feed [16, 100], .feed [1], .retryPending, .feed [2, 8, 2]]
    RowSink.NeverFails ({} : RowList) ∧
      (raw.run calls).results = [.ok .more, .ok .more, .ok .more, .ok .more, .ok (.complete 1)] ∧
      (raw.rowsAfter calls).map (·.columns) = [["TS", "p"]] ∧
      (converted.run calls).results = (raw.run calls).results ∧
      List.Forall₂ (Row.InUnits .builtin) (raw.rowsAfter calls) (converted.rowsAfter calls) ∧
      ∀ column, .error (.frame (.schema (.unknownColumn column))) ∉ (converted.run calls).results := by
  intro raw converted calls
  have faithful : RowSink.NeverFails ({} : RowList) := RowSink.neverFails_rowList _
  exact ⟨faithful, by decide +kernel, by decide +kernel, run_inUnits {} .builtin faithful faithful calls⟩

end Transfer

end SensorLog
