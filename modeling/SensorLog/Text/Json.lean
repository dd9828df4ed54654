import SensorLog.Bytes.Hex
import SensorLog.Decimal.Style

/-!
# JSON text

A small JSON tree and its one-line form: no blanks, members in the order of the tree. Numbers that
JSON cannot hold are `null`.
-/

namespace SensorLog

/-- A JSON value. -/
inductive Json
  | null
  | bool (b : Bool)
  | int (n : Int)
  | real (x : Binary64)
  | text (s : String)
  | array (items : List Json)
  | object (members : List (String × Json))

namespace Json

/-- Fewest digits that read back, a half to the even digit, an exponent part from `1e16` up and
    below `1e-5`. -/
def realStyle : Decimal.Style :=
  { tie := .even, exactWhole := false, positional := some (-5, 16) }

/-- The text of a number. -/
def renderReal : Binary64 → String
  | .nan => "null"
  | .infinite _ => "null"
  | .finite negative m => (if negative then "-" else "") ++ realStyle.write m

/-- The form of one character in a string. -/
def escape (c : Char) : String :=
  if c = '"' then "\\\""
  else if c = '\\' then "\\\\"
  else if c = '\n' then "\\n"
  else if c = '\r' then "\\r"
  else if c = '\t' then "\\t"
  else if c = '\x08' then "\\b"
  else if c = '\x0c' then "\\f"
  else if c.toNat < 0x20 then "\\u" ++ Hex.padded 4 c.toNat
  else String.ofList [c]

/-- The text of a string. -/
def renderText (s : String) : String :=
  "\"" ++ String.join (s.toList.map escape) ++ "\""

mutual

/-- The value on one line. -/
def render : Json → String
  | null => "null"
  | bool b => if b then "true" else "false"
  | int n => toString n
  | real x => renderReal x
  | text s => renderText s
  | array items => "[" ++ String.intercalate "," (renderItems items) ++ "]"
  | object members => "\x7b" ++ String.intercalate "," (renderMembers members) ++ "\x7d"

/-- The items of an array, each rendered. -/
def renderItems : List Json → List String
  | [] => []
  | j :: rest => j.render :: renderItems rest

/-- The members of an object, each rendered. -/
def renderMembers : List (String × Json) → List String
  | [] => []
  | (name, j) :: rest => (renderText name ++ ":" ++ j.render) :: renderMembers rest

end

/-- A list of texts. -/
def ofTexts (texts : List String) : Json :=
  array (texts.map text)

/-- A value that may be absent; absent is `null`. -/
def ofOption {α : Type} (f : α → Json) : Option α → Json
  | none => null
  | some a => f a

example : (object [("a", array [int 1, null]), ("b", text "x\n")]).render
    = "\x7b\"a\":[1,null],\"b\":\"x\\n\"\x7d" := by decide +kernel

end Json

end SensorLog
