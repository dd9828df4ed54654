import SensorLog.Row.Value
import SensorLog.System.Error

/-!
# Rows and where they go

A `Row` is one log entry on its way out. A `RowSink` takes rows one by one and may refuse; a
`RowList` is the sink that keeps them all.
-/

namespace SensorLog

/-- One row of output. -/
structure Row where
  columns : List String
  values : List Value
  /-- Whether the columns differ from those of the row before, or there is none. -/
  header : Bool

namespace Row

/-- The value of the first column with a name. -/
def get? (r : Row) (column : String) : Option Value :=
  ((r.columns.zip r.values).find? (·.1 == column)).map (·.2)

/-- The JSON form, which leaves the header mark out. -/
def toJson (r : Row) : Json :=
  .object [("columns", .ofTexts r.columns), ("values", .array (r.values.map (·.toJson)))]

end Row

/-- A receiver of rows. -/
class RowSink (σ : Type) where
  /-- Takes one row. -/
  write : σ → Row → σ × Except IoError Unit
  /-- Makes sure that what was taken has arrived. -/
  flush : σ → σ × Except IoError Unit

/-- A sink that keeps all rows and never refuses. -/
structure RowList where
  rows : Array Row := #[]

instance : RowSink RowList where
  write s r := (⟨s.rows.push r⟩, .ok ())
  flush s := (s, .ok ())

end SensorLog
