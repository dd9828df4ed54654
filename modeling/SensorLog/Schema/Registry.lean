import SensorLog.Schema.Error
import SensorLog.Schema.Field

/-!
# The field registry

A `Registry` is a list of fields in which protocol names, columns and command line names are each
free of repetition, so that every name leads to at most one field. `Registry.ofFields?` builds one
and names the first repetition when there is one.
-/

namespace SensorLog

/-- The first member that already occurred, in `seen` or before it in the list. -/
def firstRepeatAfter? (seen : List String) : List String → Option String
  | [] => none
  | s :: rest => if s ∈ seen then some s else firstRepeatAfter? (s :: seen) rest

/-- The first member of a list that already occurred before it. -/
def firstRepeat? (names : List String) : Option String :=
  firstRepeatAfter? [] names

theorem firstRepeatAfter?_eq_none_iff {seen names : List String} :
    firstRepeatAfter? seen names = none ↔ (∀ s ∈ names, s ∉ seen) ∧ names.Nodup := by
  induction names generalizing seen with
  | nil => simp [firstRepeatAfter?]
  | cons s rest ih =>
    by_cases h : s ∈ seen
    · simp [firstRepeatAfter?, h]
    · simp only [firstRepeatAfter?, if_neg h, ih, List.mem_cons, List.nodup_cons]
      constructor
      · rintro ⟨hrest, hnodup⟩
        refine ⟨?_, fun hs => hrest s hs (Or.inl rfl), hnodup⟩
        rintro t (rfl | ht)
        · exact h
        · exact fun hts => hrest t ht (Or.inr hts)
      · rintro ⟨hseen, hs, hnodup⟩
        refine ⟨?_, hnodup⟩
        rintro t ht (rfl | hts)
        · exact hs ht
        · exact hseen t (Or.inr ht) hts

theorem firstRepeat?_eq_none_iff {names : List String} :
    firstRepeat? names = none ↔ names.Nodup := by
  simp [firstRepeat?, firstRepeatAfter?_eq_none_iff]

/-- The protocol name of the field that every entry carries. -/
def timestampName : String := "timestamp"

/-- Fields among which every name is unique. -/
structure Registry where
  fields : List Field
  nodup_names : (fields.map (·.name)).Nodup
  nodup_columns : (fields.flatMap (·.columns)).Nodup
  nodup_apiNames : (fields.map (·.apiName)).Nodup

namespace Registry

/-- The registry of the given fields. Protocol names are tested first, then columns, then command
    line names. -/
def ofFields? (fields : List Field) : Except SchemaError Registry :=
  match hn : firstRepeat? (fields.map (·.name)) with
  | some s => .error (.duplicate s)
  | none =>
    match hc : firstRepeat? (fields.flatMap (·.columns)) with
    | some s => .error (.duplicate s)
    | none =>
      match ha : firstRepeat? (fields.map (·.apiName)) with
      | some s => .error (.duplicate s)
      | none => .ok
        { fields
          nodup_names := firstRepeat?_eq_none_iff.1 hn
          nodup_columns := firstRepeat?_eq_none_iff.1 hc
          nodup_apiNames := firstRepeat?_eq_none_iff.1 ha }

/-- The field with a protocol name. -/
def field (r : Registry) (name : String) : Except SchemaError Field :=
  match r.fields.find? (·.name == name) with
  | some f => .ok f
  | none => .error (.unknownField name)

/-- The field that owns a column. -/
def fieldOfColumn (r : Registry) (column : String) : Except SchemaError Field :=
  match r.fields.find? (·.columns.contains column) with
  | some f => .ok f
  | none => .error (.unknownColumn column)

/-- The field that can be switched under a command line name. -/
def sensor (r : Registry) (apiName : String) : Except SchemaError Field :=
  match r.fields.find? (fun f => f.apiName == apiName && f.isConfigurable) with
  | some f => .ok f
  | none => .error (.unknownSensor apiName)

/-- The fields that can be switched, in order. -/
def sensors (r : Registry) : List Field :=
  r.fields.filter (·.isConfigurable)

/-- The column of the timestamp, if there is such a field. -/
def timestampColumn? (r : Registry) : Option String :=
  (r.fields.find? (·.name == timestampName)).map (·.firstColumn)

/-- A raw reading of a column in its unit. -/
def toUnit (r : Registry) (column : String) (raw : Float) : Except SchemaError Float :=
  match r.fieldOfColumn column with
  | .error e => .error e
  | .ok f => .ok (f.toUnit raw)

end Registry

end SensorLog
