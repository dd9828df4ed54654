import SensorLog.Proofs.Decimal.Reading
import SensorLog.Proofs.Text.Words
import SensorLog.Schema.Field

/-!
# How much room a number takes in a text column

A number is written with blanks in front, its sign or a blank in its place, and its figures (`TextFormat.write_eq`).
The figures are the digits of one whole number, with a point in them, and this number decides whether the text is
within a width (`TextFormat.length_write_le_iff`).
-/

namespace SensorLog

/-- Whether a number is written with a minus sign. -/
def Binary64.isNegative : Binary64 → Bool
  | .nan => false
  | .infinite negative => negative
  | .finite negative _ => negative

namespace Decimal

theorem length_withPoint (n places : Nat) :
    (withPoint n places).length = max (places + 1) (Nat.toDigits 10 n).length + if places = 0 then 0 else 1 := by
  have point : ".".length = 1 := rfl
  unfold withPoint
  dsimp only
  split
  · simp only [String.length_ofList, List.length_append, List.length_replicate]
    omega
  · simp only [String.length_append, String.length_ofList, point, List.length_take, List.length_drop,
      List.length_append, List.length_replicate]
    omega

/-- Digits and a point are no blanks. -/
theorem blank_notMem_withPoint (n places : Nat) : ' ' ∉ (withPoint n places).toList := by
  have digits : ' ' ∉ List.replicate (places + 1 - (Nat.toDigits 10 n).length) '0' ++ Nat.toDigits 10 n := by
    intro member
    rcases List.mem_append.1 member with zero | digit
    · cases List.eq_of_mem_replicate zero
    · cases Nat.isDigit_of_mem_toDigits (by decide) (by decide) digit
  unfold withPoint
  dsimp only
  split
  · rwa [String.toList_ofList]
  · intro member
    simp only [String.toList_append, String.toList_ofList, List.mem_append (a := ' ')] at member
    rcases member with (whole | point) | fraction
    · exact digits (List.mem_of_mem_take whole)
    · cases List.mem_singleton.1 point
    · exact digits (List.mem_of_mem_drop fraction)

end Decimal

namespace TextFormat

/-- What is written of a number beside its sign. -/
def figures (format : TextFormat) : Binary64 → String
  | .nan => "NaN"
  | .infinite _ => "inf"
  | .finite _ m => Decimal.fixed format.precision m

/-- The whole number whose digits are written, the point left out; there is none for what is not finite. -/
def shown (format : TextFormat) : Binary64 → Nat
  | .finite _ m => Decimal.roundHalfEven (m.num * Nat.pow 10 format.precision) m.den
  | _ => 0

/-- The characters of the point. -/
def point (format : TextFormat) : Nat :=
  if format.precision = 0 then 0 else 1

variable (format : TextFormat)

theorem write_eq (x : Float) :
    format.write x = Text.padLeft format.width
      ((if (Binary64.ofFloat x).isNegative then "-" else " ") ++ format.figures (Binary64.ofFloat x)) := by
  unfold write
  cases Binary64.ofFloat x with
  | nan => rfl
  | infinite negative => cases negative <;> rfl
  | finite negative m => rfl

theorem blank_notMem_figures (b : Binary64) : ' ' ∉ (format.figures b).toList := by
  cases b with
  | nan => exact (by decide : ' ' ∉ "NaN".toList)
  | infinite negative => exact (by decide : ' ' ∉ "inf".toList)
  | finite negative m => exact Decimal.blank_notMem_withPoint _ _

/-- The figures are within a width exactly if the number that they show is. -/
theorem length_figures_le_iff {n : Nat} (room : format.precision + format.point < n) (wide : 3 ≤ n) (b : Binary64) :
    (format.figures b).length ≤ n ↔ format.shown b < 10 ^ (n - format.point) := by
  have bound : 0 < 10 ^ (n - format.point) := Nat.pow_pos (by decide)
  cases b with
  | nan => exact iff_of_true (show "NaN".length ≤ n from wide) bound
  | infinite negative => exact iff_of_true (show "inf".length ≤ n from wide) bound
  | finite negative m =>
      have positive : 0 < n - format.point := by omega
      show (Decimal.fixed format.precision m).length ≤ n ↔ _
      rw [Decimal.fixed, Decimal.length_withPoint, ← point, shown,
        ← Nat.length_toDigits_le_iff (b := 10) (by decide) positive]
      omega

theorem length_write (x : Float) :
    (format.write x).length = max format.width (1 + (format.figures (Binary64.ofFloat x)).length) := by
  have sign : (if (Binary64.ofFloat x).isNegative then "-" else " ").length = 1 := by
    split <;> rfl
  rw [write_eq, Text.length_padLeft, String.length_append, sign]

/-- A text is within a width exactly if the number that its digits make is. -/
theorem length_write_le_iff {n : Nat} (narrow : format.width ≤ n) (room : format.precision + format.point + 1 < n)
    (wide : 4 ≤ n) (x : Float) :
    (format.write x).length ≤ n ↔ format.shown (Binary64.ofFloat x) < 10 ^ (n - 1 - format.point) := by
  rw [← format.length_figures_le_iff (by omega) (by omega), length_write]
  omega

/-- The blanks in front of a number. -/
def indent (x : Float) : Nat :=
  format.width - (1 + (format.figures (Binary64.ofFloat x)).length) + if (Binary64.ofFloat x).isNegative then 0 else 1

/-- The number without the blanks in front of it. -/
def visible (x : Float) : List Char :=
  (if (Binary64.ofFloat x).isNegative then ['-'] else []) ++ (format.figures (Binary64.ofFloat x)).toList

theorem toList_write (x : Float) :
    (format.write x).toList = List.replicate (format.indent x) ' ' ++ format.visible x := by
  have sign : (if (Binary64.ofFloat x).isNegative then "-" else " ").length = 1 := by
    split <;> rfl
  rw [write_eq, Text.padLeft, Text.blanks, String.toList_append, String.toList_ofList, String.length_append, sign,
    String.toList_append, indent, visible]
  cases (Binary64.ofFloat x).isNegative with
  | true => rfl
  | false => simp [List.replicate_add]

theorem le_length_figures (b : Binary64) : min 3 (format.precision + 1 + format.point) ≤ (format.figures b).length := by
  cases b with
  | nan => exact (show _ ≤ "NaN".length from Nat.min_le_left 3 _)
  | infinite negative => exact (show _ ≤ "inf".length from Nat.min_le_left 3 _)
  | finite negative m =>
      have length : (format.figures (.finite negative m)).length = _ := Decimal.length_withPoint _ _
      rw [length, ← point]
      omega

theorem visible_ne_nil (x : Float) : format.visible x ≠ [] := by
  have some := format.le_length_figures (Binary64.ofFloat x)
  refine List.append_ne_nil_of_right_ne_nil _ ?_
  rw [← List.length_pos_iff, String.length_toList]
  omega

theorem blank_notMem_visible (x : Float) : ' ' ∉ format.visible x := by
  intro member
  rcases List.mem_append.1 member with sign | figure
  · split at sign
    · cases List.mem_singleton.1 sign
    · cases sign
  · exact format.blank_notMem_figures _ figure

/-- All that is seen of a text are the characters that are no blanks. -/
theorem filter_write (x : Float) : (format.write x).toList.filter (· ≠ ' ') = format.visible x := by
  have blanks : (List.replicate (format.indent x) ' ').filter (· ≠ ' ') = [] := by
    rw [List.filter_eq_nil_iff]
    intro c member
    rw [List.eq_of_mem_replicate member]
    decide
  rw [toList_write, List.filter_append, blanks, List.nil_append, List.filter_eq_self]
  intro c member
  exact decide_eq_true fun blank => format.blank_notMem_visible x (blank ▸ member)

/-- The digits of a reading that was not converted are its own. -/
theorem shown_of_reading {v : Int} (small : v.natAbs < 2 ^ 53) :
    format.shown (Binary64.ofFloat (floatOfReading v)) = v.natAbs * 10 ^ format.precision ∧
      (Binary64.ofFloat (floatOfReading v)).isNegative = decide (v < 0) := by
  obtain ⟨m, held, exact⟩ := Binary64.exists_finite_of_reading small
  have scaled : m.num * Nat.pow 10 format.precision = v.natAbs * 10 ^ format.precision * m.den := by
    rw [exact, Nat.mul_right_comm]
    rfl
  rw [held]
  refine ⟨?_, rfl⟩
  rw [shown, scaled, Decimal.roundHalfEven_of_dvd m.den_pos (Nat.dvd_mul_left _ _), Nat.mul_div_cancel _ m.den_pos]

/-- A number in its place on a line. -/
def cell (x : Float) (padding : Nat) : Text.Cell where
  indent := format.indent x
  word := format.visible x
  padding := padding
  some := format.visible_ne_nil x
  solid := format.blank_notMem_visible x

theorem indent_pos_of_nonnegative {x : Float} (unsigned : (Binary64.ofFloat x).isNegative = false) :
    0 < format.indent x := by
  rw [indent, unsigned]
  exact Nat.succ_pos _

/-- Where the figures alone are as wide as the format, a minus sign has no blank in front of it. -/
theorem indent_pos_iff (narrow : format.width ≤ min 3 (format.precision + 1 + format.point) + 1) (x : Float) :
    0 < format.indent x ↔ (Binary64.ofFloat x).isNegative = false := by
  have wide := format.le_length_figures (Binary64.ofFloat x)
  constructor
  · intro indented
    by_contra signed
    rw [Bool.not_eq_false] at signed
    rw [indent, signed, if_pos rfl] at indented
    omega
  · exact format.indent_pos_of_nonnegative

end TextFormat

end SensorLog
