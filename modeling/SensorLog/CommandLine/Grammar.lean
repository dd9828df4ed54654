import SensorLog.Bytes.HexText
import SensorLog.CommandLine.Answer
import SensorLog.Failure
import SensorLog.Row.Writer

/-!
# The grammar of the command line

A `Verb` is a command or a group of commands. Each verb lists its options, its operands and, for a
group, the verbs below it. An `ArgKind` says what a value must be and reads it. A `Refusal` is the
reason why a command line is not carried out; asking for help is one of them.
-/

namespace SensorLog

/-- Why a command line is not carried out. -/
inductive Refusal
  /-- A value that does not read; the detail says why. -/
  | badValue (detail : String)
  /-- A value that is not one of those allowed, or no value at all. -/
  | notAllowed
  /-- An option or operand that the verb does not have. -/
  | unknownArgument
  /-- An operand is missing. -/
  | missingOperand
  /-- A verb that the group does not have. -/
  | unknownVerb
  /-- An option that may occur once occurs again. -/
  | repeated
  /-- A value for an option that takes none. -/
  | needlessValue
  /-- Help was asked for. -/
  | help
  /-- The version was asked for. -/
  | version
  /-- A group without anything else. -/
  | nothingGiven
  /-- A group with options but no verb. -/
  | missingVerb
deriving DecidableEq, Repr

/-- The exit code of a refusal. -/
def Refusal.code : Refusal → Nat
  | help => ExitCode.success
  | version => ExitCode.success
  | _ => ExitCode.badArguments

/-- The wording of a refusal. -/
def Refusal.message : Refusal → String
  | badValue detail => detail
  | notAllowed => "a value is missing or not one of those allowed"
  | unknownArgument => "unexpected argument"
  | missingOperand => "a required argument is missing"
  | unknownVerb => "unknown command"
  | repeated => "an option is given more than once"
  | needlessValue => "a value for an option that takes none"
  | help => "commands: decode, fields, mask, gatt, version"
  | version => "version"
  | nothingGiven => "a command is required"
  | missingVerb => "a command is required"

/-- A value from the command line. -/
inductive ArgValue
  | text (s : String)
  | number (n : Nat)
  | bytes (bs : Bytes)
  | truth (b : Bool)
  | format (f : RowFormat)
deriving DecidableEq, Repr

/-- What a value on the command line must be. -/
inductive ArgKind
  | text
  /-- A text that is not empty. -/
  | path
  | rowFormat
  /-- A number of 64 bits. -/
  | count
  /-- A number of 32 bits. -/
  | word
  /-- A number of 32 bits, decimal or hexadecimal. -/
  | mask
  /-- A number of 8 bits, decimal or hexadecimal. -/
  | byte
  /-- Bytes as hexadecimal text. -/
  | hex
  | truth
  | choice (names : List String)
deriving DecidableEq, Repr

namespace ArgKind

/-- The largest number of 32 bits. -/
def maxWord : Nat := 4294967295

/-- Reads a number of 32 bits: as a signed number of 64 bits first, then by its range. -/
def readWord (s : String) : Except Refusal ArgValue :=
  match Number.readInt64 s with
  | .error fault => .error (.badValue fault.message)
  | .ok v =>
    if 0 ≤ v ∧ v ≤ maxWord then .ok (.number v.toNat)
    else .error (.badValue s!"{v} is not in 0..={maxWord}")

/-- Reads a number that may be hexadecimal, with a noun for the message. -/
def readPrefixed (noun : String) (max : Nat) (s : String) : Except Refusal ArgValue :=
  match Number.readPrefixed max s with
  | .ok n => .ok (.number n)
  | .error fault => .error (.badValue s!"invalid {noun} '{s}': {fault.message}")

/-- Reads a value. -/
def read (kind : ArgKind) (s : String) : Except Refusal ArgValue :=
  match kind with
  | text => .ok (.text s)
  | path => if s.isEmpty then .error .notAllowed else .ok (.text s)
  | rowFormat =>
    match RowFormat.ofName? s with
    | .ok f => .ok (.format f)
    | .error message => .error (.badValue message)
  | count =>
    match Number.readNat 10 (UInt64.size - 1) s with
    | .ok n => .ok (.number n)
    | .error fault => .error (.badValue fault.message)
  | word => readWord s
  | mask => readPrefixed "mask" maxWord s
  | byte => readPrefixed "byte" 255 s
  | hex =>
    match Hex.read s with
    | .ok bs => .ok (.bytes bs)
    | .error fault => .error (.badValue fault.message)
  | truth =>
    if s = "true" then .ok (.truth true)
    else if s = "false" then .ok (.truth false)
    else .error .notAllowed
  | choice names => if s ∈ names then .ok (.text s) else .error .notAllowed

end ArgKind

/-- What an option does. -/
inductive OptionRole
  /-- It is there or not. -/
  | flag
  /-- It takes one value. -/
  | value (kind : ArgKind)
  /-- It takes values separated by commas and may occur again. -/
  | list (kind : ArgKind)
  /-- It asks for help. -/
  | help
  /-- It asks for the version. -/
  | version
deriving DecidableEq, Repr

/-- An option, by its long name. -/
structure OptionSpec where
  name : String
  short? : Option Char := none
  role : OptionRole
deriving DecidableEq, Repr

/-- An operand, by its place. -/
structure OperandSpec where
  name : String
  kind : ArgKind
deriving DecidableEq, Repr

/-- A command, or a group of commands. -/
inductive Verb
  | root
  | decode
  | fields
  | mask
  | gatt
  | layout
  | config
  | read
  | command
  | passcode
  | response
  | version
deriving DecidableEq, Repr

namespace Verb

/-- The verbs below a group, by name. -/
def children : Verb → List (String × Verb)
  | root =>
    [("decode", decode), ("fields", fields), ("mask", mask), ("gatt", gatt), ("version", version)]
  | gatt =>
    [("layout", layout), ("config", config), ("read", read), ("command", command),
     ("passcode", passcode), ("response", response)]
  | _ => []

/-- The verb below a group with a name. -/
def child? (v : Verb) (name : String) : Option Verb :=
  (v.children.find? (·.1 == name)).map (·.2)

/-- Whether the verb is a group. -/
def isGroup (v : Verb) : Bool :=
  !v.children.isEmpty

/-- The operands of a verb; all of them are needed. -/
def operands : Verb → List OperandSpec
  | decode => [⟨"capture", .path⟩]
  | read => [⟨"characteristic", .choice (ConfigItem.all.map (·.name))⟩, ⟨"value", .hex⟩]
  | command => [⟨"opcode", .byte⟩]
  | passcode => [⟨"passcode", .text⟩]
  | response => [⟨"opcode", .byte⟩, ⟨"response", .hex⟩]
  | _ => []

/-- The options of a verb alone. -/
def ownOptions : Verb → List OptionSpec
  | root => [{ name := "version", short? := some 'V', role := .version }]
  | decode =>
    [{ name := "fmt", role := .value .rowFormat },
     { name := "raw", role := .flag },
     { name := "num", short? := some 'n', role := .value .count },
     { name := "file", role := .value .path },
     { name := "no-recovery", role := .flag },
     { name := "buffer-capacity", role := .value .count }]
  | fields => [{ name := "sensors", role := .flag }]
  | mask =>
    [{ name := "current", role := .value .mask },
     { name := "enable", role := .list .text },
     { name := "disable", role := .list .text }]
  | config =>
    [{ name := "logging", role := .value .truth },
     { name := "interval", role := .value .word },
     { name := "sensors", role := .value .mask },
     { name := "rt-imu", role := .value .word }]
  | command => [{ name := "data", role := .value .hex }]
  | version => [{ name := "extended", role := .flag }]
  | _ => []

/-- The options that every verb has. -/
def sharedOptions : List OptionSpec :=
  [{ name := "format", role := .value (.choice (OutputForm.all.map (·.name))) },
   { name := "log-format", role := .value (.choice ["text", "json"]) },
   { name := "log-level", role := .value (.choice ["error", "warn", "info", "debug", "trace"]) },
   { name := "help", short? := some 'h', role := .help }]

/-- All options of a verb. -/
def options (v : Verb) : List OptionSpec :=
  v.ownOptions ++ sharedOptions

/-- The option with a long name. -/
def option? (v : Verb) (name : String) : Option OptionSpec :=
  v.options.find? (·.name == name)

/-- The option with a short name. -/
def short? (v : Verb) (c : Char) : Option OptionSpec :=
  v.options.find? (·.short? == some c)

end Verb

end SensorLog
