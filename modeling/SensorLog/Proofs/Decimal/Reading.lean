import Mathlib
import SensorLog.Decimal.Fixed
import SensorLog.Row.Value

/-!
# Readings are held exactly

A reading of at most 53 bits is a float of its own (`exists_finite_of_reading`), so what is written of it are its
digits. The way is that of the conversion: the significand is shifted up to full length, where nothing is left to
round (`round_of_small`), and packed into a pattern that `Binary64.ofBits` takes apart again (`ofBits_pack`).
-/

namespace SensorLog

open Float.Model (Format totalExponent)
open Float.Model.UnpackedFloat

namespace Binary64

/-- A pattern in its three fields, of a normal number. -/
theorem ofBits_of_fields {w : UInt64} {negative : Bool} {exponent fraction : Nat}
    (fields : w.toNat = (negative.toNat * 2048 + exponent) * Magnitude.hiddenBit + fraction) (normal : 0 < exponent)
    (proper : exponent < 2047) (short : fraction < Magnitude.hiddenBit) :
    ofBits w = .finite negative ⟨Magnitude.hiddenBit + fraction, Int.ofNat exponent - 1075⟩ := by
  have hidden : Magnitude.hiddenBit = 2 ^ 52 := rfl
  rw [hidden] at fields short
  have sign : (w.toNat >>> 63 == 1) = negative := by
    rw [fields, Nat.shiftRight_eq_div_pow, beq_eq_decide]
    cases negative
    · exact decide_eq_false (by simp only [Bool.toNat_false]; omega)
    · exact decide_eq_true (by simp only [Bool.toNat_true]; omega)
  have exponent' : w.toNat >>> 52 % 2048 = exponent := by
    rw [fields, Nat.shiftRight_eq_div_pow]
    omega
  have fraction' : w.toNat % 2 ^ 52 = fraction := by
    rw [fields]
    omega
  unfold ofBits
  dsimp only
  rw [sign, exponent', hidden, fraction', if_neg (Nat.ne_of_lt proper), if_neg (Nat.ne_of_gt normal)]

/-- Whether a sign is a minus. -/
def isMinus : Sign → Bool
  | .negative => true
  | .positive => false

/-- A significand of full length is packed without loss. -/
theorem ofBits_pack {sign : Sign} {m : Nat} {e : Int} (positive : 0 < m) (full : m.log2 = 52) (low : -1074 ≤ e)
    (high : e ≤ 971) :
    ofBits (.ofBitVec (pack Format.binary64 (.finite sign m e positive))) = .finite (isMinus sign) ⟨m, e⟩ := by
  have length : m.log2 + 1 = Format.binary64.mantissaBits := by
    rw [full]
    rfl
  have biased : (e + Format.binary64.exponentBias + Format.binary64.mantissaBitsWithoutImplicit).toNat =
      (e + 1075).toNat := by
    show (e + 1023 + 52).toNat = _
    rw [Int.add_assoc]
    rfl
  have within : ¬2 ^ Format.binary64.exponentBits ≤ (e + 1075).toNat + 1 := by
    show ¬2048 ≤ (e + 1075).toNat + 1
    omega
  have exponent : (BitVec.ofNat 11 (e + 1075).toNat).toNat = (e + 1075).toNat := by
    rw [BitVec.toNat_ofNat]
    exact Nat.mod_eq_of_lt (by omega)
  have signBit : sign.toBitVec.toNat = (isMinus sign).toNat := by cases sign <;> rfl
  have fields : (UInt64.ofBitVec (pack Format.binary64 (.finite sign m e positive))).toNat =
      ((isMinus sign).toNat * 2048 + (e + 1075).toNat) * Magnitude.hiddenBit + m % Magnitude.hiddenBit := by
    show (pack Format.binary64 (.finite sign m e positive)).toNat = _
    unfold pack
    dsimp only
    rw [biased, if_neg within, if_pos length, packComponents, BitVec.toNat_append, BitVec.toNat_append,
      ← Nat.shiftLeft_add_eq_or_of_lt (BitVec.isLt _), ← Nat.shiftLeft_add_eq_or_of_lt (BitVec.isLt _), exponent,
      Nat.shiftLeft_eq, Nat.shiftLeft_eq, BitVec.toNat_ofNat, signBit]
    rfl
  obtain ⟨least, most⟩ := (Nat.log2_eq_iff (Nat.ne_of_gt positive)).1 full
  have whole : Magnitude.hiddenBit + m % Magnitude.hiddenBit = m := by
    show 2 ^ 52 + m % 2 ^ 52 = m
    omega
  have placed : Int.ofNat (e + 1075).toNat - 1075 = e := by
    rw [Int.ofNat_eq_natCast]
    omega
  rw [ofBits_of_fields fields (by omega) (by omega) (Nat.mod_lt _ (Nat.two_pow_pos 52)), whole, placed]

/-- A significand of full length keeps its exponent. -/
theorem targetExponent_of_full {m : Nat} {e : Int} (full : m.log2 = 52) (low : -1074 ≤ e) :
    Format.binary64.targetExponent (totalExponent m e) = e := by
  show max ((m.log2 : Int) + 1 + e - 53) (-1074) = e
  rw [full]
  omega

/-- Nothing is left to round. -/
theorem roundWithAccuracy_of_full {sign : Sign} {m : Nat} {e : Int} (positive : 0 < m) (full : m.log2 = 52)
    (low : -1074 ≤ e) : roundWithAccuracy Format.binary64 sign m e .exact = .finite sign m e positive := by
  have unshifted : shiftToTargetExponent Format.binary64 m e .exact = (⟨m, false, false⟩, e) := by
    rw [shiftToTargetExponent, targetExponent_of_full full low, shiftToExponent, Int.sub_self]
    show (_, e + ((0 : Nat) : Int)) = _
    rw [Int.natCast_zero, Int.add_zero]
    rfl
  have rounded : ExtendedMantissa.roundedMantissa ⟨m, false, false⟩ = m := rfl
  simp only [roundWithAccuracy, unshifted, rounded, dif_neg (Nat.ne_of_gt positive)]

theorem log2_shifted {n : Nat} (positive : 0 < n) (small : n < 2 ^ 53) : (n * 2 ^ (52 - n.log2)).log2 = 52 := by
  have short : n.log2 ≤ 52 := Nat.le_of_lt_succ ((Nat.log2_lt (Nat.ne_of_gt positive)).2 small)
  obtain ⟨least, most⟩ := (Nat.log2_eq_iff (Nat.ne_of_gt positive)).1 (Eq.refl n.log2)
  have unit : 0 < 2 ^ (52 - n.log2) := Nat.two_pow_pos _
  have least' := Nat.mul_le_mul_right (2 ^ (52 - n.log2)) least
  have most' := Nat.mul_lt_mul_of_pos_right most unit
  rw [← Nat.pow_add] at least' most'
  rw [Nat.log2_eq_iff (Nat.ne_of_gt (Nat.mul_pos positive unit))]
  constructor
  · rwa [Nat.add_sub_cancel' short] at least'
  · rwa [Nat.add_right_comm, Nat.add_sub_cancel' short] at most'

/-- A number of at most 53 bits is shifted up to full length. -/
theorem round_of_small {sign : Sign} {n : Nat} (positive : 0 < n) (small : n < 2 ^ 53) :
    round Format.binary64 sign n 0 = .finite sign (n * 2 ^ (52 - n.log2)) ((n.log2 : Int) - 52)
      (Nat.mul_pos positive (Nat.two_pow_pos _)) := by
  have short : n.log2 ≤ 52 := Nat.le_of_lt_succ ((Nat.log2_lt (Nat.ne_of_gt positive)).2 small)
  have target : Format.binary64.targetExponent (totalExponent n 0) = (n.log2 : Int) - 52 := by
    show max ((n.log2 : Int) + 1 + 0 - 53) (-1074) = _
    omega
  have shifted : decreaseExponent n 0 ((n.log2 : Int) - 52) = (n * 2 ^ (52 - n.log2), (n.log2 : Int) - 52) := by
    have amount : (0 - ((n.log2 : Int) - 52)).toNat = 52 - n.log2 := by omega
    rw [decreaseExponent, amount, Nat.shiftLeft_eq]
    exact congrArg (Prod.mk _) (by omega)
  simp only [Float.Model.UnpackedFloat.round, target, shifted]
  exact roundWithAccuracy_of_full _ (log2_shifted positive small) (by omega)

/-- A number of at most 53 bits comes out of its pattern as the fraction that it is. -/
theorem exists_finite_of_round {n : Nat} (sign : Sign) (positive : 0 < n) (small : n < 2 ^ 53) :
    ∃ m : Magnitude, ofBits (.ofBitVec (pack Format.binary64 (round Format.binary64 sign n 0))) =
      .finite (isMinus sign) m ∧ m.num = n * m.den := by
  have short : n.log2 ≤ 52 := Nat.le_of_lt_succ ((Nat.log2_lt (Nat.ne_of_gt positive)).2 small)
  refine ⟨⟨n * 2 ^ (52 - n.log2), (n.log2 : Int) - 52⟩, ?_, ?_⟩
  · rw [round_of_small positive small, ofBits_pack _ (log2_shifted positive small) (by omega) (by omega)]
  · have up : ((n.log2 : Int) - 52).toNat = 0 := by omega
    have down : (-((n.log2 : Int) - 52)).toNat = 52 - n.log2 := by omega
    rw [Magnitude.num, Magnitude.den, up, down, Nat.shiftLeft_zero, Nat.one_shiftLeft]

/-- A reading of at most 53 bits is held exactly, with its own sign. -/
theorem exists_finite_of_reading {v : Int} (small : v.natAbs < 2 ^ 53) :
    ∃ m : Magnitude, ofFloat (floatOfReading v) = .finite (decide (v < 0)) m ∧ m.num = v.natAbs * m.den := by
  show ∃ m : Magnitude, ofBits (.ofBitVec (pack Format.binary64
    (match compare v 0 with
      | .lt => round Format.binary64 .negative (-v).toNat 0
      | .eq => .zero .positive
      | .gt => round Format.binary64 .positive v.toNat 0))) = _ ∧ _
  rcases Int.lt_trichotomy v 0 with negative | rfl | positive
  · have magnitude : (-v).toNat = v.natAbs := by omega
    rw [Int.compare_eq_lt.2 negative, magnitude, decide_eq_true negative]
    exact exists_finite_of_round .negative (by omega) small
  · exact ⟨⟨0, -1074⟩, by decide +kernel, by decide +kernel⟩
  · have magnitude : v.toNat = v.natAbs := by omega
    have unsigned : ¬v < 0 := by omega
    rw [Int.compare_eq_gt.2 positive, magnitude, decide_eq_false unsigned]
    exact exists_finite_of_round .positive (by omega) small

end Binary64

end SensorLog
