import SensorLog.Schema.Registry

/-!
# The fields of the logger

The field table of the device, in the order in which fields are listed. Conversions divide last, so
that a reading that is a whole number of units converts exactly.
-/

namespace SensorLog.Field

/-- The axes of a spatial vector. -/
def xyz : List String := ["x", "y", "z"]

/-- Pressure, in hundredths. -/
def pressure : Field :=
  { name := "pressure", symbol := "p", unit := "hPa", mask? := some 0x001
    toUnit := fun x => x / 100.0 }

/-- Relative humidity, in tenths. -/
def rh : Field :=
  { name := "rh", symbol := "rh", unit := "%", alias? := some "humid", mask? := some 0x002
    toUnit := fun x => x / 10.0 }

/-- Temperature, in thousandths. -/
def temperature : Field :=
  { name := "temperature", symbol := "t", unit := "C", alias? := some "temp", mask? := some 0x004
    toUnit := fun x => x / 1000.0 }

/-- Magnetic flux density, full scale 4915 microtesla. -/
def compass : Field :=
  { name := "compass", symbol := "m", unit := "uT", axes := xyz, mask? := some 0x008
    toUnit := fun x => x * 4915.0 / 32768.0 }

/-- Acceleration, full scale two standard gravities. -/
def accelerometer : Field :=
  { name := "accelerometer", symbol := "a", unit := "m/s^2", alias? := some "accel", axes := xyz
    mask? := some 0x010, toUnit := fun x => x * 2.0 * 9.81 / 32768.0 }

/-- Angular rate, full scale 250 degrees per second. -/
def gyro : Field :=
  { name := "gyro", symbol := "g", unit := "dps", axes := xyz, mask? := some 0x020
    toUnit := fun x => x * 250.0 / 32768.0 }

/-- Illuminance, in thousandths. -/
def lux : Field :=
  { name := "lux", symbol := "L", unit := "lux", mask? := some 0x040
    toUnit := fun x => x / 1000.0 }

/-- Ultraviolet index, in thousandths. -/
def uvi : Field :=
  { name := "uvi", symbol := "UVi", unit := "", mask? := some 0x100
    toUnit := fun x => x / 1000.0 }

/-- Battery voltage, in thousandths. -/
def battery : Field :=
  { name := "battery_mv", symbol := "bat", unit := "V", alias? := some "batvolt"
    mask? := some 0x200, toUnit := fun x => x / 1000.0 }

/-- Seconds since the clock of the device was set. -/
def timestamp : Field :=
  { name := timestampName, symbol := "TS", unit := "s", text := { width := 7, precision := 0 } }

/-- Voltage at the first pin. -/
def gpio0 : Field := { name := "gpio0_mv", symbol := "gp0", unit := "mV" }

/-- Voltage at the second pin. -/
def gpio1 : Field := { name := "gpio1_mv", symbol := "gp1", unit := "mV" }

/-- Interrupts at the first pin. -/
def interrupt0 : Field := { name := "int_gpio0", symbol := "int0", unit := "" }

/-- Interrupts at the second pin. -/
def interrupt1 : Field := { name := "int_gpio1", symbol := "int1", unit := "" }

/-- Interrupts of the accelerometer. -/
def interruptAcc : Field := { name := "int_acc", symbol := "iacc1", unit := "" }

/-- Every field of a log entry. -/
def builtin : List Field :=
  [pressure, rh, temperature, compass, accelerometer, gyro, lux, uvi, battery, timestamp, gpio0,
   gpio1, interrupt0, interrupt1, interruptAcc]

/-- The built-in field with a protocol name. -/
def builtin? (name : String) : Option Field :=
  builtin.find? (·.name == name)

end SensorLog.Field

namespace SensorLog.Registry

/-- The registry of the built-in fields. -/
def builtin : Registry where
  fields := Field.builtin
  nodup_names := by decide +kernel
  nodup_columns := by decide +kernel
  nodup_apiNames := by decide +kernel

end SensorLog.Registry
