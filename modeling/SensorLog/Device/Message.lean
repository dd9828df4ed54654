import SensorLog.Device.Code
import SensorLog.Text.Utf8

/-!
# Device messages

The bytes of configuration values, commands and responses. A configuration value is a little-endian
32-bit word; a command is its opcode and data; a response repeats the opcode with its high bit set.
-/

namespace SensorLog

/-- The bytes of a word, lowest first. -/
def encodeWord (w : UInt32) : Bytes :=
  [w.toUInt8, (w >>> 8).toUInt8, (w >>> 16).toUInt8, (w >>> 24).toUInt8]

/-- The word of exactly four bytes. -/
def decodeWord (data : Bytes) : Except SchemaError UInt32 :=
  match data with
  | [a, b, c, d] =>
    .ok (a.toUInt32 ||| b.toUInt32 <<< 8 ||| c.toUInt32 <<< 16 ||| d.toUInt32 <<< 24)
  | _ => .error (.invalidLength 4 data.length)

namespace Command

/-- The bytes of a command with its data. -/
def encode (c : Command) (data : Bytes) : Bytes :=
  c.code :: data

/-- The number of characters of a passcode. -/
def passcodeLength : Nat := 8

/-- The command that sets or proves a passcode of eight ASCII characters. -/
def passcode (code : String) : Except SchemaError Bytes :=
  if code.toList.all (·.toNat < 128) && code.length == passcodeLength then
    .ok (setPasscode.encode (Bytes.ofText code))
  else .error .invalidPasscode

/-- The first byte of a response to a command. -/
def responseId (c : Command) : UInt8 :=
  c.code ||| 0x80

/-- The data of a response that has the expected length and answers this command. An empty response
    answers nothing, whatever length was expected. -/
def responseData (c : Command) (response : Bytes) (expectedLength : Nat) :
    Except SchemaError Bytes :=
  match response with
  | [] => .error (.invalidLength expectedLength 0)
  | id :: data =>
    if response.length ≠ expectedLength then
      .error (.invalidLength expectedLength response.length)
    else if id ≠ c.responseId then .error (.unexpectedResponse c.responseId id)
    else .ok data

end Command

/-- The status in a response: zero is success, one is followed by a response code. -/
def ResponseCode.ofResponse (response : Bytes) : Except SchemaError ResponseCode :=
  match response with
  | _ :: 0x00 :: _ => .ok .success
  | _ :: 0x01 :: code :: _ => ResponseCode.ofCode code
  | [_, 0x01] => .error (.invalidLength 3 2)
  | _ :: status :: _ => .error (.unknownCode "response status" status)
  | _ => .error (.invalidLength 2 response.length)

/-- The passcode state in a response to the request for it. -/
def PasscodeState.ofResponse (response : Bytes) : Except SchemaError PasscodeState :=
  match Command.getPasscodeState.responseData response 2 with
  | .error e => .error e
  | .ok (state :: _) => PasscodeState.ofCode state
  | .ok [] => .error (.invalidLength 2 response.length)

end SensorLog
