import SensorLog.Schema.Registry

/-!
# Switching sensors

The device keeps one bit per sensor. A `MaskChange` collects bits to set and bits to clear by sensor
name and is applied to the current bits as a whole; a bit in both sets ends up set.
-/

namespace SensorLog

/-- Bits to set and bits to clear. -/
structure MaskChange where
  set : UInt32 := 0
  clear : UInt32 := 0
deriving DecidableEq, Repr

namespace MaskChange

/-- The change with one more sensor switched on or off. -/
def switch (c : MaskChange) (r : Registry) (sensor : String) (on : Bool) :
    Except SchemaError MaskChange :=
  match r.sensor sensor with
  | .error e => .error e
  | .ok f =>
    let mask := f.mask?.getD 0
    if on then .ok { c with set := c.set ||| mask } else .ok { c with clear := c.clear ||| mask }

/-- Whether nothing changes. -/
def isEmpty (c : MaskChange) : Bool :=
  c.set == 0 && c.clear == 0

/-- The bits after the change. Setting wins over clearing. -/
def apply (c : MaskChange) (current : UInt32) : UInt32 :=
  (current &&& ~~~c.clear) ||| c.set

end MaskChange

/-- Whether one sensor is on. -/
structure SensorState where
  name : String
  mask : UInt32
  enabled : Bool
deriving DecidableEq, Repr

/-- The sensors of a registry as the given bits switch them. -/
def Registry.sensorStates (r : Registry) (bits : UInt32) : List SensorState :=
  r.fields.filterMap fun f =>
    f.mask?.map fun mask => { name := f.apiName, mask, enabled := bits &&& mask != 0 }

end SensorLog
