/-!
# Padding to a width

A width counts characters and is a minimum: a longer text is left as it is.
-/

namespace SensorLog.Text

/-- `n` blanks. -/
def blanks (n : Nat) : String :=
  String.ofList (List.replicate n ' ')

/-- Blanks after the text, up to `width` characters. -/
def padRight (width : Nat) (s : String) : String :=
  s ++ blanks (width - s.length)

/-- Blanks before the text, up to `width` characters. -/
def padLeft (width : Nat) (s : String) : String :=
  blanks (width - s.length) ++ s

@[simp] theorem length_blanks (n : Nat) : (blanks n).length = n := by
  simp [blanks]

theorem length_padRight (width : Nat) (s : String) :
    (padRight width s).length = max width s.length := by
  simp only [padRight, String.length_append, length_blanks]
  omega

theorem length_padLeft (width : Nat) (s : String) :
    (padLeft width s).length = max width s.length := by
  simp only [padLeft, String.length_append, length_blanks]
  omega

end SensorLog.Text
