import SensorLog.Record.Basic
import SensorLog.Schema.Registry

/-!
# From payloads to records

A `RecordCodec` turns a frame payload into a record. The codec of a registry decodes the payload as
a log entry and gives each present field the columns that the registry lists for it.
-/

namespace SensorLog

/-- A decoder of payloads, with the column that marks the last record. -/
structure RecordCodec where
  decode : Bytes → Except SchemaError Record
  timestampColumn : String

namespace Registry

/-- The cells of one present field. A vector may have fewer values than axes, but not more. -/
def cells (r : Registry) (f : EntryField) (reading : Reading) :
    Except SchemaError (List (String × Int)) :=
  match r.field f.name with
  | .error e => .error e
  | .ok field =>
    match reading with
    | .scalar v => .ok [(field.firstColumn, v)]
    | .vector vs =>
      if field.isVector = false ∨ field.columns.length < vs.length then
        .error (.tooManyValues f.name vs.length field.axes.length)
      else .ok (field.columns.zip vs)

/-- The cells of present fields, up to the first one that has no place. -/
def allCells (r : Registry) : List (EntryField × Reading) → Except SchemaError (List (String × Int))
  | [] => .ok []
  | (f, reading) :: rest =>
    match r.cells f reading with
    | .error e => .error e
    | .ok cells =>
      match r.allCells rest with
      | .error e => .error e
      | .ok more => .ok (cells ++ more)

/-- The record of an entry, which has to carry a timestamp. -/
def columnize (r : Registry) (e : LogEntry) : Except SchemaError Record :=
  if e.timestamp.isNone then .error (.missingField timestampName)
  else
    match r.allCells e.readings with
    | .error err => .error err
    | .ok cells => .ok ⟨cells⟩

/-- The codec of log entries under a registry. Without a timestamp field the column has the name of
    the field. -/
def codec (r : Registry) : RecordCodec where
  decode payload :=
    match LogEntry.decode payload with
    | .error e => .error (.malformed e)
    | .ok entry => r.columnize entry
  timestampColumn := r.timestampColumn?.getD timestampName

end Registry

end SensorLog
