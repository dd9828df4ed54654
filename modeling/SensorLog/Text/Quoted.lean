import SensorLog.Bytes.Hex
import SensorLog.Text.Printable

/-!
# Quoted text

Names that appear in trace events are written between double quotes. A character that could not be
read back from the page is written as an escape.
-/

namespace SensorLog.Text

/-- The form of one character between the quotes. -/
def quoteChar (c : Char) : String :=
  if c = '"' then "\\\""
  else if c = '\\' then "\\\\"
  else if c = '\n' then "\\n"
  else if c = '\r' then "\\r"
  else if c = '\t' then "\\t"
  else if c = '\x00' then "\\0"
  else if isPrintable c then String.ofList [c]
  else "\\u\x7b" ++ Hex.padded 1 c.toNat ++ "\x7d"

/-- A text between quotes. -/
def quoted (s : String) : String :=
  "\"" ++ String.join (s.toList.map quoteChar) ++ "\""

/-- Items between brackets. -/
def bracketed (items : List String) : String :=
  "[" ++ String.intercalate ", " items ++ "]"

example : quoted "a\"b\n" = "\"a\\\"b\\n\"" := by decide +kernel

end SensorLog.Text
