import SensorLog.Schema.Error

/-!
# Codes of the device protocol

Commands, response codes and passcode states are single bytes. Each kind of code lists its members
with their bytes; a byte outside the list is an error that names the kind.
-/

namespace SensorLog

/-- A request to the device. -/
inductive Command
  | updateReadPtr
  | blinkLed
  | enterDfu
  | calibrateGyro
  | calibrateCompass
  | calibrateEnd
  | setPasscode
  | getPasscodeState
  | setDisableCalCorr
  | getDisableCalCorr
  | calClearTempLut
  | calSetTempLutVal
  | calSaveTempLut
  | updateGetMem
deriving DecidableEq, Repr

namespace Command

/-- The opcode of a command. -/
def code : Command → UInt8
  | updateReadPtr => 0x00
  | blinkLed => 0x01
  | enterDfu => 0x02
  | calibrateGyro => 0x03
  | calibrateCompass => 0x04
  | calibrateEnd => 0x05
  | setPasscode => 0x06
  | getPasscodeState => 0x07
  | setDisableCalCorr => 0x08
  | getDisableCalCorr => 0x09
  | calClearTempLut => 0x0A
  | calSetTempLutVal => 0x0B
  | calSaveTempLut => 0x0C
  | updateGetMem => 0x70

/-- All commands, by opcode. -/
def all : List Command :=
  [updateReadPtr, blinkLed, enterDfu, calibrateGyro, calibrateCompass, calibrateEnd, setPasscode,
   getPasscodeState, setDisableCalCorr, getDisableCalCorr, calClearTempLut, calSetTempLutVal,
   calSaveTempLut, updateGetMem]

/-- The name of a command in the protocol. -/
def name : Command → String
  | updateReadPtr => "UPDATE_READ_PTR"
  | blinkLed => "BLINK_LED"
  | enterDfu => "ENTER_DFU"
  | calibrateGyro => "CALIBRATE_GYRO"
  | calibrateCompass => "CALIBRATE_COMPASS"
  | calibrateEnd => "CALIBRATE_END"
  | setPasscode => "SET_PASSCODE"
  | getPasscodeState => "GET_PASSCODE_STATE"
  | setDisableCalCorr => "SET_DISABLE_CAL_CORR"
  | getDisableCalCorr => "GET_DISABLE_CAL_CORR"
  | calClearTempLut => "CAL_CLEAR_TEMP_LUT"
  | calSetTempLutVal => "CAL_SET_TEMP_LUT_VAL"
  | calSaveTempLut => "CAL_SAVE_TEMP_LUT"
  | updateGetMem => "UPDATE_GET_MEM"

/-- The command with an opcode. -/
def ofCode (value : UInt8) : Except SchemaError Command :=
  match all.find? (·.code == value) with
  | some c => .ok c
  | none => .error (.unknownCode "command" value)

theorem ofCode_code (c : Command) : ofCode c.code = .ok c := by
  cases c <;> rfl

end Command

/-- What a device reports about a command. -/
inductive ResponseCode
  | success
  | error
  | errorPasscodeFormat
  | errorCompassNoMotion
  | errorCompassLargeMagnet
  | errorAccessDenied
  | errorUnknownCmd
  | complete
  | errorCalibration
  | progress
deriving DecidableEq, Repr

namespace ResponseCode

/-- The byte of a response code. -/
def code : ResponseCode → UInt8
  | success => 0x00
  | error => 0x01
  | errorPasscodeFormat => 0x02
  | errorCompassNoMotion => 0x03
  | errorCompassLargeMagnet => 0x04
  | errorAccessDenied => 0x05
  | errorUnknownCmd => 0x06
  | complete => 0x80
  | errorCalibration => 0x81
  | progress => 0x82

/-- All response codes, by byte. -/
def all : List ResponseCode :=
  [success, error, errorPasscodeFormat, errorCompassNoMotion, errorCompassLargeMagnet,
   errorAccessDenied, errorUnknownCmd, complete, errorCalibration, progress]

/-- The name of a response code in the protocol. -/
def name : ResponseCode → String
  | success => "SUCCESS"
  | error => "ERROR"
  | errorPasscodeFormat => "ERROR_PASSCODE_FORMAT"
  | errorCompassNoMotion => "ERROR_COMPASS_NO_MOTION"
  | errorCompassLargeMagnet => "ERROR_COMPASS_LARGE_MAGNET"
  | errorAccessDenied => "ERROR_ACCESS_DENIED"
  | errorUnknownCmd => "ERROR_UNKNOWN_CMD"
  | complete => "COMPLETE"
  | errorCalibration => "ERROR_CALIBRATION"
  | progress => "PROGRESS"

/-- The name of a response code in running text. -/
def title : ResponseCode → String
  | success => "Success"
  | error => "Error"
  | errorPasscodeFormat => "ErrorPasscodeFormat"
  | errorCompassNoMotion => "ErrorCompassNoMotion"
  | errorCompassLargeMagnet => "ErrorCompassLargeMagnet"
  | errorAccessDenied => "ErrorAccessDenied"
  | errorUnknownCmd => "ErrorUnknownCmd"
  | complete => "Complete"
  | errorCalibration => "ErrorCalibration"
  | progress => "Progress"

/-- The response code of a byte. -/
def ofCode (value : UInt8) : Except SchemaError ResponseCode :=
  match all.find? (·.code == value) with
  | some c => .ok c
  | none => .error (.unknownCode "response" value)

theorem ofCode_code (c : ResponseCode) : ofCode c.code = .ok c := by
  cases c <;> rfl

end ResponseCode

/-- The state of the passcode protection. -/
inductive PasscodeState
  | init
  | unverified
  | verified
  | disabled
deriving DecidableEq, Repr

namespace PasscodeState

/-- The byte of a passcode state. -/
def code : PasscodeState → UInt8
  | init => 0x00
  | unverified => 0x01
  | verified => 0x02
  | disabled => 0x03

/-- All passcode states, by byte. -/
def all : List PasscodeState :=
  [init, unverified, verified, disabled]

/-- The name of a passcode state in running text. -/
def name : PasscodeState → String
  | init => "init"
  | unverified => "unverified"
  | verified => "verified"
  | disabled => "disabled"

/-- The name of a passcode state in the protocol. -/
def protocolName : PasscodeState → String
  | init => "INIT"
  | unverified => "UNVERIFIED"
  | verified => "VERIFIED"
  | disabled => "DISABLED"

/-- Whether the device refuses commands until it is unlocked. -/
def needsUnlock (s : PasscodeState) : Bool :=
  s == .unverified

/-- The passcode state of a byte. -/
def ofCode (value : UInt8) : Except SchemaError PasscodeState :=
  match all.find? (·.code == value) with
  | some s => .ok s
  | none => .error (.unknownCode "passcode status" value)

theorem ofCode_code (s : PasscodeState) : ofCode s.code = .ok s := by
  cases s <;> rfl

end PasscodeState

end SensorLog
