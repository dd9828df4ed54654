import SensorLog.Capture.Replay
import SensorLog.CommandLine.Request
import SensorLog.Device.Message
import SensorLog.Row.Writer
import SensorLog.Schema.Builtin

/-!
# Carrying out requests

`Request.run` says how the process that carries out a request ends, and what the request leaves
behind: what is printed, the content of the file for rows, and whether it failed. Only decoding needs
files; they are given as functions, so that the effects are a value. Rows that were written before a
failure stay written. Decoding also sets memory aside for its queue, and a process that does not get
it is stopped before the first row.
-/

namespace SensorLog

/-- What came of looking for a capture. -/
inductive CaptureSource
  /-- It cannot be opened. -/
  | unopened (e : IoError)
  /-- It is open but cannot be read. -/
  | unreadable (e : IoError)
  | content (bytes : Bytes)

/-- The files as a request finds them. -/
structure Files where
  /-- Creates a file for rows. -/
  create : String → Except IoError Unit
  /-- Opens and reads a capture. -/
  read : CapturePlace → CaptureSource

/-- The files once a file was created, which leaves that file empty. -/
def Files.afterCreating (files : Files) (path : String) : Files :=
  { files with
    read := fun place => if place = .file path then .content [] else files.read place }

@[simp] theorem Files.read_afterCreating_self (files : Files) (path : String) :
    (files.afterCreating path).read (.file path) = .content [] := by
  simp [Files.afterCreating]

theorem Files.read_afterCreating_of_ne (files : Files) {path : String} {place : CapturePlace}
    (h : place ≠ .file path) : (files.afterCreating path).read place = files.read place := by
  simp [Files.afterCreating, h]

/-- What a request leaves behind. -/
structure Effects where
  /-- What is printed. -/
  printed : ByteArray := .empty
  /-- The content of the file for rows, if it was created. -/
  rowFile? : Option ByteArray := none
  result : Except Failure Unit := .ok ()

/-- The exit code. -/
def Effects.code (e : Effects) : Nat :=
  match e.result with
  | .ok () => ExitCode.success
  | .error failure => failure.code

/-- The machine that a request is carried out on. -/
structure Machine where
  files : Files
  memory : Memory

/-- How the process of a request ends. -/
inductive ProcessEnd
  | exited (effects : Effects)
  /-- It did not get its memory, and the file for rows stays as it was. -/
  | stopped (fault : MemoryFault) (rowFile? : Option ByteArray)

/-- The exit code. A process that the system leaves without memory aborts and has none. -/
def ProcessEnd.code? : ProcessEnd → Option Nat
  | exited effects => some effects.code
  | stopped .overflow _ => some ExitCode.fault
  | stopped (.exhausted _) _ => none

/-- The name of the program. -/
def programName : String := "bblog"

/-- The version of the program. -/
def programVersion : String := "0.1.0"

namespace DecodeRequest

/-- The settings of the transfer. -/
def settings (r : DecodeRequest) : Settings :=
  { raw := r.raw
    maxEntries? := r.maxEntries?
    capacity := r.capacity?.getD PacketQueue.defaultCapacity
    plan := if r.retry then .default else .disabled }

/-- The transfer before its first packet. -/
def transfer (r : DecodeRequest) : Transfer RowWriter :=
  .new r.settings .builtin { format := r.format, registry := .builtin, sink := {} }

/-- Rows go to their file if there is one, else they are printed. -/
def effects (r : DecodeRequest) (rows : ByteArray) (result : Except Failure Unit) : Effects :=
  match r.rowFile? with
  | none => { printed := rows, result }
  | some _ => { rowFile? := some rows, result }

/-- Decodes the capture into rows. -/
def decode (r : DecodeRequest) (source : CaptureSource) : Effects :=
  match r.capture, source with
  | .file path, .unopened e => r.effects .empty (.error (.ofIo s!"open {path}" e))
  | .stdin, .unopened e => r.effects .empty (.error (.ofIo Capture.readContext e))
  | _, .unreadable e => r.effects .empty (.error (.ofIo Capture.readContext e))
  | _, .content bytes =>
    let replay := Capture.replay r.transfer bytes
    r.effects replay.transfer.sink.sink.bytes replay.result

/-- Carries out the request: the file for rows is created before the capture is looked for. -/
def run (r : DecodeRequest) (files : Files) : Effects :=
  match r.rowFile? with
  | none => r.decode (files.read r.capture)
  | some path =>
    match files.create path with
    | .error e => { result := .error (.ofIo s!"create {path}" e) }
    | .ok () => r.decode ((files.afterCreating path).read r.capture)

/-- Whether decoding gets as far as its queue: only the file for rows comes before. -/
def reachesQueue (r : DecodeRequest) (files : Files) : Bool :=
  match r.rowFile? with
  | none => true
  | some path => (files.create path).isOk

/-- Carries out the request on a machine. The queue gets its memory between the file for rows, which is
    created empty, and the capture. -/
def perform (r : DecodeRequest) (machine : Machine) : ProcessEnd :=
  if r.reachesQueue machine.files then
    match PacketQueue.reserve machine.memory r.settings.capacity with
    | .error fault => .stopped fault (r.rowFile?.map fun _ => .empty)
    | .ok () => .exited (r.run machine.files)
  else .exited (r.run machine.files)

end DecodeRequest

/-- Switches sensors one by one. -/
def MaskChange.switchAll (c : MaskChange) (r : Registry) (on : Bool) :
    List String → Except SchemaError MaskChange
  | [] => .ok c
  | sensor :: rest =>
    match c.switch r sensor on with
    | .error e => .error e
    | .ok c => c.switchAll r on rest

/-- The writes of configuration values: logging, interval, sensors, motion rate. -/
def ConfigValues.writes (values : ConfigValues) : List AttributeWrite :=
  let word (item : ConfigItem) (value? : Option UInt32) : List AttributeWrite :=
    (value?.map fun value => ⟨item.characteristic, encodeWord value⟩).toList
  word .logEnable (values.logging?.map fun on => if on then 1 else 0)
    ++ word .interval values.interval?
    ++ word .sensorEnable values.sensors?
    ++ word .rtImu values.rtImu?

namespace Request

/-- Puts a context before the wording of an error. -/
def within {α : Type} (context : String) : Except SchemaError α → Except Failure α
  | .ok a => .ok a
  | .error e => .error (.ofSchema context e)

/-- The command of the device with an opcode. An unknown opcode is a mistake of the user. -/
def opcode (value : UInt8) : Except Failure Command :=
  match Command.ofCode value with
  | .ok c => .ok c
  | .error e => .error ⟨ExitCode.usage, s!"opcode: {e.message}"⟩

/-- Switches sensors off, then on. -/
def maskAnswer (current : UInt32) (enable disable : List String) : Except Failure Answer :=
  match within "disable" (MaskChange.switchAll {} .builtin false disable) with
  | .error failure => .error failure
  | .ok change =>
    match within "enable" (change.switchAll .builtin true enable) with
    | .error failure => .error failure
    | .ok change =>
      let mask := change.apply current
      .ok (.mask current mask (Registry.builtin.sensorStates mask))

/-- The writes of configuration values, of which there must be one. -/
def configAnswer (values : ConfigValues) : Except Failure Answer :=
  match values.writes with
  | [] => .error ⟨ExitCode.usage, "config: nothing to write"⟩
  | writes => .ok (.writes writes)

/-- A configuration value that was read. -/
def readAnswer (item : ConfigItem) (value : Bytes) : Except Failure Answer :=
  match within "read" (decodeWord value) with
  | .error failure => .error failure
  | .ok word =>
    .ok (.reading item word
      (if item = .sensorEnable then some (Registry.builtin.sensorStates word) else none))

/-- The write of a command of the device. -/
def commandAnswer (code : UInt8) (data : Bytes) : Except Failure Answer :=
  match opcode code with
  | .error failure => .error failure
  | .ok c => .ok (.writes [⟨.cmdTx, c.encode data⟩])

/-- The write of the command for a passcode. -/
def passcodeAnswer (passcode : String) : Except Failure Answer :=
  match within "passcode" (Command.passcode passcode) with
  | .error failure => .error failure
  | .ok value => .ok (.writes [⟨.cmdTx, value⟩])

/-- What a response says: the request for the passcode state has a response of its own kind, any
    other a status in front of its data. -/
def responseContent (command : Command) (response : Bytes) :
    Except SchemaError (Bytes × ResponseContent) :=
  match command with
  | .getPasscodeState =>
    match PasscodeState.ofResponse response with
    | .error e => .error e
    | .ok state => .ok (response.drop 1, .passcode state)
  | _ =>
    match command.responseData response response.length with
    | .error e => .error e
    | .ok [] => .ok ([], .status none)
    | .ok data =>
      match ResponseCode.ofResponse response with
      | .error e => .error e
      | .ok code => .ok (data, .status (some code))

/-- A response to a command of the device. -/
def responseAnswer (code : UInt8) (response : Bytes) : Except Failure Answer :=
  match opcode code with
  | .error failure => .error failure
  | .ok c =>
    match within "response" (responseContent c response) with
    | .error failure => .error failure
    | .ok (data, content) => .ok (.response code data content)

/-- The fields of a log entry, or those that can be switched. -/
def fieldsAnswer (switchable : Bool) : Answer :=
  .fields (if switchable then Registry.builtin.sensors else Registry.builtin.fields)

/-- The program and its version. -/
def versionAnswer (extended : Bool) : Answer :=
  .lines (if extended then [s!"name: {programName}", s!"version: {programVersion}"]
    else [s!"{programName} {programVersion}"])

/-- An answer is printed; a failure prints nothing. -/
def endOf (form : OutputForm) : Except Failure Answer → ProcessEnd
  | .ok answer => .exited { printed := (answer.render form).toUTF8 }
  | .error failure => .exited { result := .error failure }

/-- Carries out a request. -/
def run (request : Request) (form : OutputForm) (machine : Machine) : ProcessEnd :=
  match request with
  | decode r => r.perform machine
  | fields switchable => endOf form (.ok (fieldsAnswer switchable))
  | mask current enable disable => endOf form (maskAnswer current enable disable)
  | layout => endOf form (.ok (.attributes Attribute.all))
  | config values => endOf form (configAnswer values)
  | read item value => endOf form (readAnswer item value)
  | command code data => endOf form (commandAnswer code data)
  | passcode code => endOf form (passcodeAnswer code)
  | response code bytes => endOf form (responseAnswer code bytes)
  | version extended => endOf form (.ok (versionAnswer extended))

end Request

/-- Carries out an invocation. -/
def Invocation.run (i : Invocation) (machine : Machine) : ProcessEnd :=
  i.request.run i.form machine

end SensorLog
