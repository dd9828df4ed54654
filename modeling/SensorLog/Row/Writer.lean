import SensorLog.Row.Basic
import SensorLog.Schema.Registry
import SensorLog.Text.Utf8

/-!
# Row formats

Rows are written as aligned text, as comma separated values or as one JSON array per line. A
`RowFormat` says how one row reads; a `RowWriter` puts rows into a `TextSink`, which may fill up.
Aligned text is set off from what came before by one blank line, ahead of the first header.
-/

namespace SensorLog

/-- How rows are written. -/
inductive RowFormat
  /-- Aligned columns under a name and a unit line. -/
  | text
  /-- Comma separated values. -/
  | csv
  /-- One JSON array per line. -/
  | json
deriving DecidableEq, Repr

namespace RowFormat

/-- The name of a format. -/
def name : RowFormat → String
  | text => "txt"
  | csv => "csv"
  | json => "json"

/-- The format with a name, or why there is none. -/
def ofName? (s : String) : Except String RowFormat :=
  if s = "txt" then .ok text
  else if s = "csv" then .ok csv
  else if s = "json" then .ok json
  else .error s!"unknown row format '{s}' (expected txt, csv or json)"

theorem ofName?_name (format : RowFormat) : ofName? format.name = .ok format := by
  cases format <;> rfl

/-- The width of a text column. -/
def columnWidth : Nat := 10

/-- A cell of a text line. -/
def pad (s : String) : String :=
  Text.padRight columnWidth s

/-- The unit line's entry for a column; an unknown column has an empty unit. -/
def unitText (r : Registry) (column : String) : String :=
  match r.fieldOfColumn column with
  | .ok f => "(" ++ f.unit ++ ")"
  | .error _ => "()"

/-- The text of a value in its column; in an unknown column it is the plain text. -/
def cellText (r : Registry) (column : String) (value : Value) : String :=
  match r.fieldOfColumn column with
  | .ok f => f.text.write value.toFloat
  | .error _ => value.text

/-- One line. -/
def line (s : String) : String :=
  s ++ "\n"

/-- The header lines for columns. -/
def header (format : RowFormat) (r : Registry) (columns : List String) : String :=
  match format with
  | text =>
    line (String.join (columns.map pad))
      ++ line (String.join (columns.map fun c => pad (unitText r c)))
  | csv => line (String.intercalate "," columns)
  | json => line (Json.ofTexts columns).render

/-- The line of values. -/
def body (format : RowFormat) (r : Registry) (columns : List String) (values : List Value) :
    String :=
  match format with
  | text => line (String.join ((columns.zip values).map fun (c, v) => pad (cellText r c v)))
  | csv => line (String.intercalate "," (values.map (·.text)))
  | json => line (Json.array (values.map (·.toJson))).render

/-- A row with its header lines, if it has the mark. -/
def row (format : RowFormat) (r : Registry) (row : Row) : String :=
  (if row.header then format.header r row.columns else "") ++ format.body r row.columns row.values

end RowFormat

/-- A place for text that may hold only so many bytes, and may refuse to be flushed. -/
structure TextSink where
  limit? : Option Nat := none
  flushFails : Bool := false
  bytes : ByteArray := .empty

namespace TextSink

/-- The error of a sink that is full. -/
def full : IoError :=
  { kind := .other, text? := some "sink full" }

/-- The error of a sink that cannot be flushed. -/
def stuck : IoError :=
  { kind := .permissionDenied, text? := some "flush failed" }

/-- Adds a text. When it does not fit, the part that fits is kept. -/
def write (s : TextSink) (text : String) : TextSink × Except IoError Unit :=
  let bytes := text.toUTF8
  match s.limit? with
  | none => ({ s with bytes := s.bytes ++ bytes }, .ok ())
  | some limit =>
    let room := limit - s.bytes.size
    if bytes.size ≤ room then ({ s with bytes := s.bytes ++ bytes }, .ok ())
    else ({ s with bytes := s.bytes ++ bytes.extract 0 room }, .error full)

/-- A sink without a limit takes everything. -/
theorem write_of_unlimited {s : TextSink} (h : s.limit? = none) (text : String) :
    s.write text = ({ s with bytes := s.bytes ++ text.toUTF8 }, .ok ()) := by
  simp [write, h]

/-- Flushes the sink. -/
def flush (s : TextSink) : TextSink × Except IoError Unit :=
  (s, if s.flushFails then .error stuck else .ok ())

end TextSink

/-- A sink that writes rows in a format. -/
structure RowWriter where
  format : RowFormat
  registry : Registry
  sink : TextSink
  /-- Whether the blank line before the first header has been written. -/
  separated : Bool := false

namespace RowWriter

/-- Writes a row and its header. -/
def writeLines (w : RowWriter) (row : Row) : RowWriter × Except IoError Unit :=
  let (sink, result) := w.sink.write (w.format.row w.registry row)
  ({ w with sink }, result)

/-- Writes a row, after a blank line if it is the first header of aligned text. -/
def write (w : RowWriter) (row : Row) : RowWriter × Except IoError Unit :=
  if w.format = .text ∧ row.header = true ∧ w.separated = false then
    match w.sink.write "\n" with
    | (sink, .error e) => ({ w with sink }, .error e)
    | (sink, .ok ()) => { w with sink, separated := true : RowWriter }.writeLines row
  else w.writeLines row

instance : RowSink RowWriter where
  write := write
  flush w :=
    let (sink, result) := w.sink.flush
    ({ w with sink }, result)

end RowWriter

end SensorLog
