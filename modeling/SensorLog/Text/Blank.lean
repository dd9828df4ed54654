/-!
# Blank characters

Two notions of a blank: `Text.isBlank` is the Unicode property `White_Space` and decides whether a
line holds anything at all; `Text.isAsciiBlank` is the set of byte values that may stand between
digits.
-/

namespace SensorLog.Text

/-- The code point ranges of the Unicode property `White_Space`, in ascending order. -/
def blankRanges : List (Nat × Nat) :=
  [(0x09, 0x0D), (0x20, 0x20), (0x85, 0x85), (0xA0, 0xA0), (0x1680, 0x1680), (0x2000, 0x200A),
   (0x2028, 0x2029), (0x202F, 0x202F), (0x205F, 0x205F), (0x3000, 0x3000)]

/-- Whether a character has the Unicode property `White_Space`. -/
def isBlank (c : Char) : Bool :=
  blankRanges.any fun r => r.1 ≤ c.toNat && c.toNat ≤ r.2

/-- Space, tab, line feed, form feed and carriage return. The vertical tab is not among them. -/
def isAsciiBlank (b : UInt8) : Bool :=
  b == 0x20 || b == 0x09 || b == 0x0A || b == 0x0C || b == 0x0D

end SensorLog.Text
