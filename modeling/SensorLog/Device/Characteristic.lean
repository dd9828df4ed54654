import SensorLog.Bytes.Hex

/-!
# Services and characteristics

The attributes of the logger with their names and identifiers. Vendor attributes and attributes of
the Bluetooth standard differ in the base that their 16-bit number is put into.
-/

namespace SensorLog

/-- The identifier of a vendor attribute. -/
def vendorUuid (n : Nat) : String :=
  "c9f6" ++ Hex.padded 4 n ++ "-9f9b-fba4-5847-7fd701bf59f2"

/-- The identifier of a standard attribute. -/
def standardUuid (n : Nat) : String :=
  "0000" ++ Hex.padded 4 n ++ "-0000-1000-8000-00805f9b34fb"

/-- An attribute of the logger. -/
inductive Attribute
  | logService
  | sensorsRtd
  | sensorsLog
  | cmdTx
  | cmdRx
  | cfgLogEnable
  | cfgSensorEnable
  | cfgInterval
  | cfgRtImu
  | deviceInformation
  | serialNumber
  | softwareRevision
  | manufacturer
deriving DecidableEq, Repr

namespace Attribute

/-- All attributes, in the order in which they are listed. -/
def all : List Attribute :=
  [logService, sensorsRtd, sensorsLog, cmdTx, cmdRx, cfgLogEnable, cfgSensorEnable, cfgInterval,
   cfgRtImu, deviceInformation, serialNumber, softwareRevision, manufacturer]

/-- The name of an attribute. -/
def name : Attribute → String
  | logService => "log-service"
  | sensorsRtd => "sensors-rtd"
  | sensorsLog => "sensors-log"
  | cmdTx => "cmd-tx"
  | cmdRx => "cmd-rx"
  | cfgLogEnable => "cfg-log-enable"
  | cfgSensorEnable => "cfg-sensor-enable"
  | cfgInterval => "cfg-interval"
  | cfgRtImu => "cfg-rt-imu"
  | deviceInformation => "device-information"
  | serialNumber => "serial-number"
  | softwareRevision => "software-revision"
  | manufacturer => "manufacturer"

/-- Whether the attribute is a service; all others are characteristics. -/
def isService : Attribute → Bool
  | logService => true
  | deviceInformation => true
  | _ => false

/-- The word for what an attribute is. -/
def kind (a : Attribute) : String :=
  if a.isService then "service" else "characteristic"

/-- The identifier of an attribute. -/
def uuid : Attribute → String
  | logService => vendorUuid 0x0002
  | sensorsRtd => vendorUuid 0x0022
  | sensorsLog => vendorUuid 0x0021
  | cmdTx => vendorUuid 0x001A
  | cmdRx => vendorUuid 0x0023
  | cfgLogEnable => vendorUuid 0x0000
  | cfgSensorEnable => vendorUuid 0x0001
  | cfgInterval => vendorUuid 0x0002
  | cfgRtImu => vendorUuid 0x0003
  | deviceInformation => standardUuid 0x180A
  | serialNumber => standardUuid 0x2A25
  | softwareRevision => standardUuid 0x2A28
  | manufacturer => standardUuid 0x2A29

end Attribute

/-- A configuration value of the logger, one 32-bit word. -/
inductive ConfigItem
  | logEnable
  | sensorEnable
  | interval
  | rtImu
deriving DecidableEq, Repr

namespace ConfigItem

/-- All configuration values. -/
def all : List ConfigItem :=
  [logEnable, sensorEnable, interval, rtImu]

/-- The name of a configuration value. -/
def name : ConfigItem → String
  | logEnable => "log-enable"
  | sensorEnable => "sensor-enable"
  | interval => "interval"
  | rtImu => "rt-imu"

/-- The configuration value with a name. -/
def ofName? (s : String) : Option ConfigItem :=
  all.find? (·.name == s)

/-- The characteristic that holds a configuration value. -/
def characteristic : ConfigItem → Attribute
  | logEnable => .cfgLogEnable
  | sensorEnable => .cfgSensorEnable
  | interval => .cfgInterval
  | rtImu => .cfgRtImu

theorem ofName?_name (item : ConfigItem) : ofName? item.name = some item := by
  cases item <;> rfl

theorem name_characteristic (item : ConfigItem) :
    item.characteristic.name = "cfg-" ++ item.name := by
  cases item <;> rfl

end ConfigItem

end SensorLog
