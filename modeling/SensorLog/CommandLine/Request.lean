import SensorLog.CommandLine.Arguments

/-!
# Requests

A `Request` is a command with everything that it needs to know. It is put together from the
arguments that were read; an `Invocation` adds the form in which the result is printed.
-/

namespace SensorLog

/-- Where a capture is read from. -/
inductive CapturePlace
  | stdin
  | file (path : String)
deriving DecidableEq, Repr

/-- The place that a path stands for: a dash is the standard input. -/
def CapturePlace.ofPath (path : String) : CapturePlace :=
  if path = "-" then stdin else file path

/-- A request to decode a capture. -/
structure DecodeRequest where
  capture : CapturePlace
  /-- The file for the rows; without one they are printed. -/
  rowFile? : Option String := none
  format : RowFormat := .text
  raw : Bool := false
  maxEntries? : Option Nat := none
  /-- Whether corrupt payloads are read again. -/
  retry : Bool := true
  capacity? : Option Nat := none
deriving DecidableEq, Repr

/-- Configuration values to be written. -/
structure ConfigValues where
  logging? : Option Bool := none
  interval? : Option UInt32 := none
  sensors? : Option UInt32 := none
  rtImu? : Option UInt32 := none
deriving DecidableEq, Repr

/-- A command with everything that it needs to know. -/
inductive Request
  /-- Decodes a capture into rows. -/
  | decode (request : DecodeRequest)
  /-- Lists the fields of a log entry, or those that can be switched. -/
  | fields (switchable : Bool)
  /-- Switches sensors in a set of bits. -/
  | mask (current : UInt32) (enable disable : List String)
  /-- Lists services and characteristics. -/
  | layout
  /-- Encodes configuration values. -/
  | config (values : ConfigValues)
  /-- Decodes a configuration value. -/
  | read (item : ConfigItem) (value : Bytes)
  /-- Encodes a command of the device. -/
  | command (opcode : UInt8) (data : Bytes)
  /-- Encodes the command that sets or proves a passcode. -/
  | passcode (passcode : String)
  /-- Reads the response to a command of the device. -/
  | response (opcode : UInt8) (response : Bytes)
  /-- Names the program and its version, on one line or line by line. -/
  | version (extended : Bool)
deriving DecidableEq, Repr

/-- A request and the form in which its result is printed. -/
structure Invocation where
  form : OutputForm
  request : Request
deriving DecidableEq, Repr

namespace ArgValue

/-- The text, if the value is one. -/
def text? : ArgValue → Option String
  | text s => some s
  | _ => none

/-- The number, if the value is one. -/
def number? : ArgValue → Option Nat
  | number n => some n
  | _ => none

/-- The bytes, if the value is a byte string. -/
def bytes? : ArgValue → Option Bytes
  | bytes bs => some bs
  | _ => none

/-- The truth value, if the value is one. -/
def truth? : ArgValue → Option Bool
  | truth b => some b
  | _ => none

/-- The row format, if the value is one. -/
def format? : ArgValue → Option RowFormat
  | format f => some f
  | _ => none

end ArgValue

namespace Parsed

/-- The value of an option or operand. -/
def value? (p : Parsed) (name : String) : Option ArgValue :=
  (p.found.find? (·.1 == name)).bind (·.2.head?)

/-- Whether an option occurs. -/
def has (p : Parsed) (name : String) : Bool :=
  p.found.any (·.1 == name)

/-- The text of an option or operand. -/
def text? (p : Parsed) (name : String) : Option String :=
  (p.value? name).bind (·.text?)

/-- The number of an option or operand. -/
def number? (p : Parsed) (name : String) : Option Nat :=
  (p.value? name).bind (·.number?)

/-- The 32-bit word of an option. -/
def word? (p : Parsed) (name : String) : Option UInt32 :=
  (p.number? name).map .ofNat

/-- The bytes of an option or operand. -/
def bytes? (p : Parsed) (name : String) : Option Bytes :=
  (p.value? name).bind (·.bytes?)

/-- The texts of all occurrences of an option. -/
def texts (p : Parsed) (name : String) : List String :=
  (p.found.filter (·.1 == name)).flatMap fun (_, values) => values.filterMap (·.text?)

/-- The request to decode a capture. -/
def decodeRequest? (p : Parsed) : Option DecodeRequest :=
  (p.text? "capture").map fun path =>
    { capture := .ofPath path
      rowFile? := p.text? "file"
      format := ((p.value? "fmt").bind (·.format?)).getD .text
      raw := p.has "raw"
      maxEntries? := p.number? "num"
      retry := !p.has "no-recovery"
      capacity? := p.number? "buffer-capacity" }

/-- The configuration values to be written. -/
def configValues (p : Parsed) : ConfigValues :=
  { logging? := (p.value? "logging").bind (·.truth?)
    interval? := p.word? "interval"
    sensors? := p.word? "sensors"
    rtImu? := p.word? "rt-imu" }

/-- The request, if all operands are there. -/
def request? (p : Parsed) : Option Request :=
  match p.verb with
  | .root => none
  | .gatt => none
  | .decode => p.decodeRequest?.map .decode
  | .fields => some (.fields (p.has "sensors"))
  | .mask => some (.mask ((p.word? "current").getD 0) (p.texts "enable") (p.texts "disable"))
  | .layout => some .layout
  | .config => some (.config p.configValues)
  | .read =>
    match (p.text? "characteristic").bind ConfigItem.ofName?, p.bytes? "value" with
    | some item, some value => some (.read item value)
    | _, _ => none
  | .command =>
    (p.number? "opcode").map fun opcode => .command (.ofNat opcode) ((p.bytes? "data").getD [])
  | .passcode => (p.text? "passcode").map .passcode
  | .response =>
    match p.number? "opcode", p.bytes? "response" with
    | some opcode, some response => some (.response (.ofNat opcode) response)
    | _, _ => none
  | .version => some (.version (p.has "extended"))

/-- The form of the result; JSON unless another is asked for. -/
def form (p : Parsed) : OutputForm :=
  ((p.text? "format").bind OutputForm.ofName?).getD .json

end Parsed

/-- The invocation that a command line stands for. -/
def Invocation.ofArguments (args : List String) : Except Refusal Invocation :=
  match parseArguments args with
  | .error r => .error r
  | .ok p =>
    match p.request? with
    | none => .error .missingOperand
    | some request => .ok { form := p.form, request }

end SensorLog
