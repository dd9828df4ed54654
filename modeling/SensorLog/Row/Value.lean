import SensorLog.Text.Json

/-!
# Output values

A row holds raw readings or converted quantities. Both have a plain text, in which a number without
a fraction always shows `.0`, and a JSON form.
-/

namespace SensorLog

/-- One output value. -/
inductive Value
  /-- A raw reading. -/
  | int (v : Int)
  /-- A converted quantity. -/
  | real (x : Float)

/-- A raw reading as a float: the nearest one, and of two the one with an even significand. -/
def floatOfReading (v : Int) : Float :=
  .ofModel (.ofInt v)

namespace Value

/-- The value as a float. -/
def toFloat : Value → Float
  | int v => floatOfReading v
  | real x => x

/-- Never an exponent part, whole numbers written out, a half away from zero. -/
def plainStyle : Decimal.Style :=
  { tie := .up, exactWhole := true, positional := none }

/-- The plain text of a number. -/
def plainReal : Binary64 → String
  | .nan => "NaN"
  | .infinite negative => if negative then "-inf" else "inf"
  | .finite negative m => (if negative then "-" else "") ++ plainStyle.write m

/-- The plain text. -/
def text : Value → String
  | int v => toString v
  | real x => plainReal (Binary64.ofFloat x)

/-- The JSON form. -/
def toJson : Value → Json
  | int v => .int v
  | real x => .real (Binary64.ofFloat x)

end Value

end SensorLog
