/-!
# Records

A record is a decoded log entry as columns and raw readings, in message order. A record with a
single column ends the log.
-/

namespace SensorLog

/-- Columns with their raw readings, in message order. -/
structure Record where
  cells : List (String × Int)
deriving DecidableEq, Repr

namespace Record

/-- The columns. -/
def columns (r : Record) : List String :=
  r.cells.map (·.1)

/-- The readings, one per column. -/
def values (r : Record) : List Int :=
  r.cells.map (·.2)

/-- The reading of the first column with a name. -/
def get? (r : Record) (column : String) : Option Int :=
  (r.cells.find? (·.1 == column)).map (·.2)

/-- The record with one more cell at its end. -/
def push (r : Record) (column : String) (value : Int) : Record :=
  ⟨r.cells ++ [(column, value)]⟩

/-- The number of cells. -/
def size (r : Record) : Nat :=
  r.cells.length

/-- Whether the record ends the log. Which column it has does not matter. -/
def isEndOfLog (r : Record) : Bool :=
  r.size == 1

/-- Whether the record ends the log in another column than the timestamp. -/
def isOddEnd (r : Record) (timestampColumn : String) : Bool :=
  r.isEndOfLog && r.columns != [timestampColumn]

theorem length_columns (r : Record) : r.columns.length = r.size := by
  simp [columns, size]

end Record

end SensorLog
