import SensorLog.Bytes.HexText

/-!
# Lines of a capture

A capture holds one packet per line as hexadecimal text. A `#` starts a comment, and a line without
anything else is passed over. A line ends with a line feed, which may follow a carriage return; the
last line may go without.
-/

namespace SensorLog.Capture

/-- A line without its end: the carriage return goes only together with the line feed. -/
def stripReturn (line : Bytes) : Bytes :=
  if line.getLast? = some 0x0D then line.dropLast else line

/-- The lines of a byte string; `line` holds the bytes of the current one in reverse. -/
def linesFrom (line : Bytes) : Bytes → List Bytes
  | [] => if line.isEmpty then [] else [line.reverse]
  | b :: rest =>
    if b = 0x0A then stripReturn line.reverse :: linesFrom [] rest else linesFrom (b :: line) rest

/-- The lines of a byte string, without their ends. -/
def lines (bs : Bytes) : List Bytes :=
  linesFrom [] bs

theorem linesFrom_newline (acc rest : Bytes) {line : Bytes} (h : 0x0A ∉ line) :
    linesFrom acc (line ++ 0x0A :: rest)
      = stripReturn (acc.reverse ++ line) :: linesFrom [] rest := by
  induction line generalizing acc with
  | nil => simp [linesFrom]
  | cons b line ih =>
    obtain ⟨hb, hline⟩ : 0x0A ≠ b ∧ 0x0A ∉ line := by simpa using h
    rw [List.cons_append, linesFrom, if_neg (Ne.symm hb), ih _ hline]
    simp

/-- A line feed ends a line, and the lines after it do not depend on it. -/
theorem lines_newline (rest : Bytes) {line : Bytes} (h : 0x0A ∉ line) :
    lines (line ++ 0x0A :: rest) = stripReturn line :: lines rest :=
  linesFrom_newline [] rest h

/-- The part of a line before its comment. -/
def withoutComment (line : String) : String :=
  String.ofList (line.toList.takeWhile (· != '#'))

/-- The packet on a line, if there is one. -/
def packet? (line : String) : Except Hex.Fault (Option Bytes) :=
  let data := withoutComment line
  if data.toList.all Text.isBlank then .ok none
  else
    match Hex.read data with
    | .error fault => .error fault
    | .ok packet => .ok (some packet)

end SensorLog.Capture
