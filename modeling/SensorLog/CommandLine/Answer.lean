import SensorLog.Device.Characteristic
import SensorLog.Device.Code
import SensorLog.Device.Sensors
import SensorLog.Text.Json
import SensorLog.Text.Table

/-!
# Printed results

An `Answer` is what a command has to say. It is printed in one of three forms: as JSON on one line,
as a boxed table, or as plain lines. An answer whose plain lines say all needs no table; its table
form is the plain one.
-/

namespace SensorLog

/-- The form of printed results. -/
inductive OutputForm
  | json
  | table
  | pretty
deriving DecidableEq, Repr

namespace OutputForm

/-- All forms. -/
def all : List OutputForm :=
  [json, table, pretty]

/-- The name of a form. -/
def name : OutputForm → String
  | json => "json"
  | table => "table"
  | pretty => "pretty"

/-- The form with a name. -/
def ofName? (s : String) : Option OutputForm :=
  all.find? (·.name == s)

theorem ofName?_name (form : OutputForm) : ofName? form.name = some form := by
  cases form <;> rfl

end OutputForm

/-- Bytes to be written to a characteristic. -/
structure AttributeWrite where
  target : Attribute
  value : Bytes
deriving DecidableEq, Repr

/-- What a response says besides its data. -/
inductive ResponseContent
  /-- A status, which is absent when there is no data. -/
  | status (code? : Option ResponseCode)
  | passcode (state : PasscodeState)
deriving DecidableEq, Repr

/-- What a command has to say. -/
inductive Answer
  | fields (fields : List Field)
  | mask (before after : UInt32) (sensors : List SensorState)
  | attributes (attributes : List Attribute)
  | writes (writes : List AttributeWrite)
  /-- A configuration value that was read; for the sensor bits also the sensors. -/
  | reading (item : ConfigItem) (value : UInt32) (sensors? : Option (List SensorState))
  | response (opcode : UInt8) (data : Bytes) (content : ResponseContent)
  /-- Lines that read the same in every form. -/
  | lines (lines : List String)

/-- Sensor bits as text. -/
def maskText (mask : UInt32) : String :=
  "0x" ++ Hex.padded 4 mask.toNat

/-- The form of a number as text. -/
def TextFormat.summary (format : TextFormat) : String :=
  s!"{format.width}.{format.precision}f"

/-- The name on the command line, if it differs from the protocol name. -/
def Field.ownAlias? (f : Field) : Option String :=
  if f.apiName = f.name then none else some f.apiName

/-- The bit of a field as text; empty if it cannot be switched. -/
def Field.maskCell (f : Field) : String :=
  (f.mask?.map maskText).getD ""

/-- The text of a truth value. -/
def truthText (b : Bool) : String :=
  if b then "true" else "false"

namespace Answer

/-- A number in JSON. -/
def number (n : Nat) : Json :=
  .int n

/-- A field in JSON. -/
def fieldJson (f : Field) : Json :=
  .object
    [("name", .text f.name), ("columns", .ofTexts f.columns), ("unit", .text f.unit),
     ("alias", .ofOption .text f.ownAlias?),
     ("enable_mask", .ofOption (fun m => number m.toNat) f.mask?),
     ("text_format",
       .object [("width", number f.text.width), ("precision", number f.text.precision)])]

/-- A sensor in JSON. -/
def sensorJson (s : SensorState) : Json :=
  .object [("name", .text s.name), ("mask", number s.mask.toNat), ("enabled", .bool s.enabled)]

/-- An attribute in JSON. -/
def attributeJson (a : Attribute) : Json :=
  .object [("name", .text a.name), ("kind", .text a.kind), ("uuid", .text a.uuid)]

/-- A write in JSON. -/
def writeJson (w : AttributeWrite) : Json :=
  .object
    [("characteristic", .text w.target.name), ("uuid", .text w.target.uuid),
     ("value", .text (Hex.encode w.value))]

/-- The members of a response besides opcode and data. -/
def contentMembers : ResponseContent → List (String × Json)
  | .status none => []
  | .status (some code) => [("status", .text code.name)]
  | .passcode state =>
    [("passcode", .text state.name), ("needs_unlock", .bool state.needsUnlock)]

/-- The plain line of a sensor. -/
def sensorLine (s : SensorState) : String :=
  "  " ++ Text.padRight 10 s.name ++ " : " ++ truthText s.enabled

/-- The plain lines of what a response says. -/
def contentLines : ResponseContent → List String
  | .status none => []
  | .status (some code) => ["  status     : " ++ code.title]
  | .passcode state => ["  passcode   : " ++ state.name]

/-- The plain lines. -/
def prettyLines : Answer → List String
  | fields fs => fs.map fun f =>
    String.intercalate " "
      [Text.padRight 14 f.name, Text.padRight 16 (String.intercalate "," f.columns),
       Text.padRight 6 f.unit, Text.padRight 6 f.text.summary, f.maskCell]
  | mask before after sensors =>
    s!"mask={maskText after} previous={maskText before}" :: sensors.map sensorLine
  | attributes as => as.map fun a =>
    String.intercalate " " [Text.padRight 20 a.name, Text.padRight 15 a.kind, a.uuid]
  | writes ws => ws.map fun w => s!"{w.target.name} <- {Hex.encode w.value}"
  | reading item value sensors? =>
    s!"{item.characteristic.name} = {value}" :: (sensors?.getD []).map sensorLine
  | response opcode data content =>
    s!"opcode=0x{Hex.padded 2 opcode.toNat} data={Hex.encode data}" :: contentLines content
  | lines ls => ls

/-- The JSON form. -/
def jsonLines : Answer → List String
  | fields fs => [(Json.array (fs.map fieldJson)).render]
  | mask before after sensors =>
    [(Json.object
      [("previous", number before.toNat), ("mask", number after.toNat),
       ("sensors", .array (sensors.map sensorJson))]).render]
  | attributes as => [(Json.array (as.map attributeJson)).render]
  | writes ws => [(Json.array (ws.map writeJson)).render]
  | reading item value sensors? =>
    let sensors := match sensors? with
      | none => []
      | some states => [("sensors", Json.array (states.map sensorJson))]
    [(Json.object
      ([("characteristic", .text item.characteristic.name), ("value", number value.toNat)]
        ++ sensors)).render]
  | response opcode data content =>
    [(Json.object
      ([("opcode", number opcode.toNat), ("data", .text (Hex.encode data))]
        ++ contentMembers content)).render]
  | lines ls => ls

/-- The table form. -/
def tableLines : Answer → List String
  | fields fs =>
    Text.tableLines ["FIELD", "COLUMNS", "UNIT", "ALIAS", "MASK", "TEXT"]
      (fs.map fun f =>
        [f.name, String.intercalate " " f.columns, f.unit, f.ownAlias?.getD "", f.maskCell,
         f.text.summary])
  | mask before after sensors =>
    s!"mask: {maskText after} (was {maskText before})"
      :: Text.tableLines ["SENSOR", "BIT", "ENABLED"]
        (sensors.map fun s => [s.name, maskText s.mask, truthText s.enabled])
  | attributes as =>
    Text.tableLines ["NAME", "KIND", "UUID"] (as.map fun a => [a.name, a.kind, a.uuid])
  | writes ws =>
    Text.tableLines ["CHARACTERISTIC", "UUID", "VALUE"]
      (ws.map fun w => [w.target.name, w.target.uuid, Hex.encode w.value])
  | answer => answer.prettyLines

/-- The lines of an answer in a form. -/
def linesIn (answer : Answer) : OutputForm → List String
  | .json => answer.jsonLines
  | .table => answer.tableLines
  | .pretty => answer.prettyLines

/-- The text of an answer in a form; every line ends. -/
def render (answer : Answer) (form : OutputForm) : String :=
  String.join ((answer.linesIn form).map (· ++ "\n"))

end Answer

end SensorLog
