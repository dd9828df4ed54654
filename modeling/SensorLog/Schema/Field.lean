import SensorLog.Decimal.Fixed
import SensorLog.Text.Align

/-!
# Fields and their columns

A `Field` describes one value of a log entry: its protocol name, the columns it is shown in, the
conversion to its unit and the form of its text. A field with axes has one column per axis, any
other field has one column, its symbol.
-/

namespace SensorLog

/-- The form of a number in a text column. -/
structure TextFormat where
  width : Nat := 4
  precision : Nat := 3
deriving DecidableEq, Repr

/-- A fixed number of places, right-aligned. A number without a minus sign gets a blank in its
    place, so that columns of mixed sign stay aligned. -/
def TextFormat.write (format : TextFormat) (x : Float) : String :=
  let body := match Binary64.ofFloat x with
    | .nan => " NaN"
    | .infinite negative => if negative then "-inf" else " inf"
    | .finite negative m => (if negative then "-" else " ") ++ Decimal.fixed format.precision m
  Text.padLeft format.width body

/-- The description of one field of a log entry. -/
structure Field where
  /-- The name in the protocol. -/
  name : String
  /-- The short name that columns are made of. -/
  symbol : String
  unit : String
  /-- A friendlier name for the command line. -/
  alias? : Option String := none
  /-- The axes of a vector; none for a single value. -/
  axes : List String := []
  /-- The bit that switches the sensor, if it can be switched. -/
  mask? : Option UInt32 := none
  /-- From the raw reading to the unit. -/
  toUnit : Float → Float := id
  text : TextFormat := {}

namespace Field

/-- The name on the command line: the alias if there is one. -/
def apiName (f : Field) : String :=
  f.alias?.getD f.name

/-- Whether the field can be switched on its own. -/
def isConfigurable (f : Field) : Bool :=
  f.mask?.isSome

/-- Whether the field has one value per axis. -/
def isVector (f : Field) : Bool :=
  !f.axes.isEmpty

/-- The column of an axis. -/
def axisColumn (f : Field) (axis : String) : String :=
  f.symbol ++ "_" ++ axis

/-- The columns of the field: one per axis, or the symbol alone. -/
def columns (f : Field) : List String :=
  match f.axes with
  | [] => [f.symbol]
  | axes => axes.map f.axisColumn

/-- The first column, which takes the value of a field without axes. -/
def firstColumn (f : Field) : String :=
  match f.axes with
  | [] => f.symbol
  | axis :: _ => f.axisColumn axis

theorem head?_columns (f : Field) : f.columns.head? = some f.firstColumn := by
  unfold columns firstColumn
  cases f.axes <;> rfl

theorem length_columns_of_isVector {f : Field} (h : f.isVector = true) :
    f.columns.length = f.axes.length := by
  unfold columns
  cases ha : f.axes with
  | nil => simp [isVector, ha] at h
  | cons => simp

end Field

end SensorLog
