import StructuredIR.Number.Binary
import Mathlib

/-! # Underflow

A number other than zero may be so small that a binary format rounds it to zero. This happens
exactly up to half of the smallest number of the format.

* **`BinaryFormat.Underflows`** says so of a ratio, and **`BinaryFormat.round?_eq_zero`** that
  rounding does.
* **`Double.isZero_narrow?`** is the same for doubles and a format that is no finer than theirs,
  **`Double.isZero_ofInt?`** and **`Double.narrow?_ofInt?`** say that integers other than zero do not
  underflow. -/

namespace StructuredIR

namespace BinaryFormat

/-- **A ratio underflows** in a format if it is at most half of the smallest number of the
format. -/
def Underflows (format : BinaryFormat) (numerator denominator : Nat) : Prop :=
  (numerator : ℚ) / denominator ≤ 2 ^ (format.minExponent - 1)

/-! ## Rounding a quotient -/

/-- A quotient is rounded to zero exactly up to one half. -/
theorem roundQuotient_eq_zero {numerator denominator : Nat} (bottom : 0 < denominator) :
    roundQuotient numerator denominator = 0 ↔ 2 * numerator ≤ denominator := by
  unfold roundQuotient
  rcases Nat.lt_or_ge numerator denominator with small | large
  · rw [Nat.div_eq_of_lt small, Nat.mod_eq_of_lt small]
    grind
  · have whole : 0 < numerator / denominator := Nat.div_pos large bottom
    grind

/-- A quotient is not rounded below its integer part. -/
theorem div_le_roundQuotient (numerator denominator : Nat) :
    numerator / denominator ≤ roundQuotient numerator denominator := by
  grind [roundQuotient]

/-- A quotient that is not rounded to zero is at most twice what it is rounded to. -/
theorem le_two_mul_roundQuotient {numerator denominator : Nat} (bottom : 0 < denominator)
    (rounded : roundQuotient numerator denominator ≠ 0) :
    numerator ≤ 2 * (roundQuotient numerator denominator * denominator) := by
  have lower := div_le_roundQuotient numerator denominator
  have upper : numerator < denominator * (numerator / denominator + 1) :=
    Nat.lt_mul_div_succ numerator bottom
  have twice : numerator / denominator + 1 ≤ 2 * roundQuotient numerator denominator := by omega
  calc numerator ≤ denominator * (numerator / denominator + 1) := upper.le
    _ ≤ denominator * (2 * roundQuotient numerator denominator) := Nat.mul_le_mul_left _ twice
    _ = 2 * (roundQuotient numerator denominator * denominator) := by ring

/-! ## Powers of two -/

theorem two_pow_pos (power : Nat) : 0 < Nat.pow 2 power :=
  Nat.pow_pos two_pos

/-- A power of two with a natural exponent, as a rational number. -/
theorem zpow_toNat {exponent : Int} (natural : 0 ≤ exponent) :
    ((Nat.pow 2 exponent.toNat : Nat) : ℚ) = 2 ^ exponent := by
  obtain ⟨power, rfl⟩ := Int.eq_ofNat_of_zero_le natural
  rw [Int.toNat_natCast, zpow_natCast, Nat.pow_eq, Nat.cast_pow, Nat.cast_ofNat]

/-- A power of two with a negative exponent, as a rational number. -/
theorem zpow_neg_toNat {exponent : Int} (negative : ¬0 ≤ exponent) :
    ((Nat.pow 2 (-exponent).toNat : Nat) : ℚ) = (2 ^ exponent)⁻¹ := by
  rw [zpow_toNat (by omega), zpow_neg]

/-- What the comparison with a power of two compares. -/
theorem powerTwoLe_iff {exponent : Int} {numerator denominator : Nat} (bottom : 0 < denominator) :
    powerTwoLe exponent numerator denominator = true ↔
      (2 : ℚ) ^ exponent ≤ numerator / denominator := by
  have below : (0 : ℚ) < denominator := Nat.cast_pos.mpr bottom
  have power : (0 : ℚ) < 2 ^ exponent := zpow_pos two_pos exponent
  unfold powerTwoLe
  rw [le_div_iff₀ below]
  split_ifs with natural
  · rw [decide_eq_true_iff, ← Nat.cast_le (α := ℚ), Nat.cast_mul, zpow_toNat natural, mul_comm]
  · rw [decide_eq_true_iff, ← Nat.cast_le (α := ℚ), Nat.cast_mul, zpow_neg_toNat natural,
      ← div_eq_mul_inv, le_div_iff₀ power, mul_comm]

/-- The power of two that is found for a ratio is at most the ratio. -/
theorem floorLog_le {numerator denominator : Nat} (top : 0 < numerator)
    (bottom : 0 < denominator) :
    (2 : ℚ) ^ floorLog numerator denominator ≤ numerator / denominator := by
  unfold floorLog
  dsimp only
  split_ifs with guessed
  · exact (powerTwoLe_iff bottom).mp guessed
  · -- One less is low enough: the logarithms are off by less than one.
    have below : (0 : ℚ) < denominator := Nat.cast_pos.mpr bottom
    have lower : (2 : ℚ) ^ (numerator.log2 : Int) ≤ numerator := by
      rw [zpow_natCast]
      exact_mod_cast Nat.log2_self_le top.ne'
    have upper : (denominator : ℚ) ≤ 2 ^ ((denominator.log2 : Int) + 1) := by
      have strict : denominator < 2 ^ (denominator.log2 + 1) := Nat.lt_log2_self
      exact_mod_cast strict.le
    rw [le_div_iff₀ below]
    calc (2 : ℚ) ^ ((numerator.log2 : Int) - denominator.log2 - 1) * denominator
        ≤ 2 ^ ((numerator.log2 : Int) - denominator.log2 - 1) *
            2 ^ ((denominator.log2 : Int) + 1) := by gcongr
      _ = 2 ^ (numerator.log2 : Int) := by
          rw [← zpow_add₀ two_ne_zero]
          congr 1
          ring
      _ ≤ numerator := lower

/-! ## Rounding a ratio -/

variable {format : BinaryFormat} {numerator denominator : Nat} {rounded : Nat × Int}

/-- A ratio in units of a power of two is rounded to zero exactly up to half of the power. -/
theorem roundScaled_eq_zero {exponent : Int} (bottom : 0 < denominator) :
    roundScaled numerator denominator exponent = 0 ↔
      (numerator : ℚ) / denominator ≤ 2 ^ (exponent - 1) := by
  have below : (0 : ℚ) < denominator := Nat.cast_pos.mpr bottom
  have power : (0 : ℚ) < 2 ^ exponent := zpow_pos two_pos exponent
  rw [zpow_sub_one₀ two_ne_zero, div_le_iff₀ below]
  unfold roundScaled
  split_ifs with natural
  · rw [roundQuotient_eq_zero (Nat.mul_pos bottom (two_pow_pos _)),
      ← Nat.cast_le (α := ℚ), Nat.cast_mul, Nat.cast_mul, zpow_toNat natural]
    constructor <;> intro bound <;> push_cast at * <;> linarith
  · rw [roundQuotient_eq_zero bottom, ← Nat.cast_le (α := ℚ), Nat.cast_mul, Nat.cast_mul,
      zpow_neg_toNat natural, ← mul_assoc, ← div_eq_mul_inv, div_le_iff₀ power]
    constructor <;> intro bound <;> push_cast at * <;> linarith

/-- A ratio that is not rounded to zero is at most twice what it is rounded to. -/
theorem le_two_mul_roundScaled {exponent : Int} (bottom : 0 < denominator)
    (rounded : roundScaled numerator denominator exponent ≠ 0) :
    (numerator : ℚ) / denominator ≤
      2 * (roundScaled numerator denominator exponent * 2 ^ exponent) := by
  have below : (0 : ℚ) < denominator := Nat.cast_pos.mpr bottom
  have power : (0 : ℚ) < 2 ^ exponent := zpow_pos two_pos exponent
  rw [div_le_iff₀ below]
  unfold roundScaled at *
  split_ifs at * with natural
  · have bound := le_two_mul_roundQuotient
      (Nat.mul_pos bottom (two_pow_pos _)) rounded
    rw [← Nat.cast_le (α := ℚ)] at bound
    simp only [Nat.cast_mul, zpow_toNat natural] at bound
    push_cast at bound
    linarith
  · have bound := le_two_mul_roundQuotient bottom rounded
    rw [← Nat.cast_le (α := ℚ)] at bound
    simp only [Nat.cast_mul, zpow_neg_toNat natural] at bound
    rw [← div_eq_mul_inv, div_le_iff₀ power] at bound
    push_cast at bound
    linarith

/-- A ratio is rounded in units of a power of two that is the smallest one of the format or at most
the ratio. What carries top is written with fewer bits, and no other value. -/
theorem round?_eq_some (precise : 0 < format.precision) (top : 0 < numerator)
    (bottom : 0 < denominator) (run : format.round? numerator denominator = some rounded) :
    ∃ exponent : Int, format.minExponent ≤ exponent ∧ format.minExponent ≤ rounded.2 ∧
      (exponent = format.minExponent ∨ (2 : ℚ) ^ exponent ≤ numerator / denominator) ∧
        (rounded.1 = 0 ↔ roundScaled numerator denominator exponent = 0) ∧
          (rounded.1 : ℚ) * 2 ^ rounded.2 =
            roundScaled numerator denominator exponent * 2 ^ exponent := by
  unfold round? at run
  rw [if_neg top.ne'] at run
  dsimp only at run
  generalize chosen : max format.minExponent
    (floorLog numerator denominator - (format.precision - 1 : Nat)) = exponent at run
  have least : format.minExponent ≤ exponent := by omega
  have side : exponent = format.minExponent ∨ (2 : ℚ) ^ exponent ≤ numerator / denominator := by
    rcases max_choice format.minExponent
      (floorLog numerator denominator - (format.precision - 1 : Nat)) with same | same
    · exact .inl (chosen ▸ same)
    · refine .inr (le_trans ?_ (floorLog_le top bottom))
      exact zpow_le_zpow_right₀ one_le_two (by omega)
  refine ⟨exponent, least, ?_⟩
  split_ifs at run with carries carriesToo tooLarge <;> cases run
  · -- The significand has carried top to a power of two.
    obtain ⟨bits, same⟩ : ∃ bits, format.precision = bits + 1 := ⟨format.precision - 1, by omega⟩
    refine ⟨by dsimp only; omega, side, ?_, ?_⟩
    · rw [carries]
      exact iff_of_false (two_pow_pos _).ne' (two_pow_pos _).ne'
    · rw [carries, same, Nat.add_sub_cancel, zpow_add_one₀ two_ne_zero, Nat.pow_eq, Nat.pow_eq]
      push_cast
      ring
  · exact ⟨least, side, Iff.rfl, rfl⟩

/-- **A ratio is rounded to zero exactly if it underflows.** -/
theorem round?_eq_zero (precise : 0 < format.precision) (top : 0 < numerator)
    (bottom : 0 < denominator) (run : format.round? numerator denominator = some rounded) :
    rounded.1 = 0 ↔ format.Underflows numerator denominator := by
  obtain ⟨exponent, least, -, side, zero, -⟩ := round?_eq_some precise top bottom run
  rw [zero, roundScaled_eq_zero bottom, Underflows]
  rcases side with rfl | large
  · rfl
  · -- A ratio of at least one unit is far from both bounds.
    have above (other : Int) (small : other ≤ exponent) :
        ¬(numerator : ℚ) / denominator ≤ 2 ^ (other - 1) := by
      intro bound
      have strict : (2 : ℚ) ^ (other - 1) < 2 ^ exponent :=
        zpow_lt_zpow_right₀ one_lt_two (by omega)
      linarith
    exact iff_of_false (above exponent le_rfl) (above format.minExponent least)

/-- What underflows is not too large. -/
theorem round?_of_underflows (wide : format.minExponent ≤ format.maxExponent) (top : 0 < numerator)
    (bottom : 0 < denominator) (underflows : format.Underflows numerator denominator) :
    format.round? numerator denominator = some (0, format.minExponent) := by
  have low : floorLog numerator denominator ≤ format.minExponent - 1 :=
    (zpow_le_zpow_iff_right₀ one_lt_two).mp ((floorLog_le top bottom).trans underflows)
  have chosen : max format.minExponent
      (floorLog numerator denominator - (format.precision - 1 : Nat)) = format.minExponent := by
    omega
  have zero : roundScaled numerator denominator format.minExponent = 0 :=
    (roundScaled_eq_zero bottom).mpr underflows
  unfold round?
  rw [if_neg top.ne']
  dsimp only
  rw [chosen, zero, if_neg (two_pow_pos format.precision).ne, if_neg wide.not_gt]

/-- What is not rounded to zero is at most twice what it is rounded to. -/
theorem le_two_mul_round? (precise : 0 < format.precision) (top : 0 < numerator)
    (bottom : 0 < denominator) (run : format.round? numerator denominator = some rounded)
    (nonzero : rounded.1 ≠ 0) :
    (numerator : ℚ) / denominator ≤ 2 * (rounded.1 * 2 ^ rounded.2) := by
  obtain ⟨exponent, -, -, -, zero, same⟩ := round?_eq_some precise top bottom run
  rw [same]
  exact le_two_mul_roundScaled bottom (mt zero.mpr nonzero)

/-- Zero is rounded to zero. -/
theorem round?_zero (denominator : Nat) : format.round? 0 denominator = some (0, format.minExponent) :=
  if_pos rfl

end BinaryFormat

namespace Double

open BinaryFormat

variable {significand : Nat} {exponent : Int}

theorem ratio_pos (significand : Nat) (exponent : Int) : 0 < (ratio significand exponent).2 := by
  unfold ratio
  split_ifs
  · exact Nat.one_pos
  · exact two_pow_pos _

/-- The ratio of a magnitude is what the magnitude stands for. -/
theorem ratio_eq (significand : Nat) (exponent : Int) :
    ((ratio significand exponent).1 : ℚ) / (ratio significand exponent).2 =
      significand * 2 ^ exponent := by
  unfold ratio
  split_ifs with natural
  · rw [Nat.cast_one, div_one, Nat.cast_mul, zpow_toNat natural]
  · rw [zpow_neg_toNat natural, div_inv_eq_mul]

theorem ratio_fst_eq_zero : (ratio significand exponent).1 = 0 ↔ significand = 0 := by
  unfold ratio
  split_ifs
  · exact Nat.mul_eq_zero.trans (or_iff_left (two_pow_pos _).ne')
  · rfl

/-- A ratio becomes a zero exactly if it is zero or underflows. -/
theorem isZero_ofRatio? {negative : Bool} {numerator denominator : Nat} {number : Double}
    (bottom : 0 < denominator) (run : ofRatio? negative numerator denominator = some number) :
    number.isZero = true ↔ numerator = 0 ∨ BinaryFormat.double.Underflows numerator denominator := by
  obtain ⟨rounded, rounding, rfl⟩ := Option.map_eq_some_iff.mp run
  rw [isZero, beq_iff_eq]
  rcases Nat.eq_zero_or_pos numerator with rfl | top
  · rw [round?_zero] at rounding
    cases rounding
    simp
  · rw [round?_eq_zero (by decide) top bottom rounding]
    exact (or_iff_right top.ne').symm

/-- **Integers become a zero only if they are zero.** -/
theorem isZero_ofInt? {integer : Int} {number : Double} (run : ofInt? integer = some number) :
    number.isZero = true ↔ integer = 0 := by
  rw [isZero_ofRatio? Nat.one_pos run, Int.natAbs_eq_zero]
  refine or_iff_left_of_imp fun underflows => ?_
  by_contra nonzero
  have one : (1 : ℚ) ≤ integer.natAbs := by exact_mod_cast Int.natAbs_pos.mpr nonzero
  have small : (2 : ℚ) ^ (BinaryFormat.double.minExponent - 1) < 1 :=
    zpow_lt_one_of_neg₀ one_lt_two (by decide)
  rw [Underflows, Nat.cast_one, div_one] at underflows
  linarith

/-- Narrowing a finite double rounds its ratio, and takes what this gives as a double. -/
theorem narrow?_finite (format : BinaryFormat) (negative : Bool) (significand : Nat)
    (exponent : Int) :
    narrow? format (.finite negative significand exponent) =
      (format.round? (ratio significand exponent).1 (ratio significand exponent).2).bind
        fun rounded => ofRatio? negative (ratio rounded.1 rounded.2).1 (ratio rounded.1 rounded.2).2 :=
  rfl

/-- **A double is narrowed to zero exactly if it is zero or underflows** in the narrower format. -/
theorem isZero_narrow? {format : BinaryFormat} {negative : Bool} {number : Double}
    (precise : 0 < format.precision) (coarse : BinaryFormat.double.minExponent ≤ format.minExponent)
    (run : narrow? format (.finite negative significand exponent) = some number) :
    number.isZero = true ↔
      significand = 0 ∨ (significand : ℚ) * 2 ^ exponent ≤ 2 ^ (format.minExponent - 1) := by
  rw [narrow?_finite] at run
  obtain ⟨rounded, rounding, run⟩ := Option.bind_eq_some_iff.mp run
  have bottom := ratio_pos significand exponent
  rw [isZero_ofRatio? (ratio_pos _ _) run, ratio_fst_eq_zero, ← ratio_eq]
  rcases Nat.eq_zero_or_pos (ratio significand exponent).1 with zero | top
  · rw [zero, round?_zero] at rounding
    cases rounding
    exact iff_of_true (.inl rfl) (.inl (ratio_fst_eq_zero.mp zero))
  · rw [or_iff_right (mt ratio_fst_eq_zero.mpr top.ne')]
    rw [← Underflows, ← round?_eq_zero precise top bottom rounding]
    -- What the format keeps, the doubles can tell from zero.
    refine or_iff_left_of_imp fun underflows => ?_
    by_contra nonzero
    obtain ⟨unit, -, least, -⟩ := round?_eq_some precise top bottom rounding
    have one : (1 : ℚ) ≤ rounded.1 := by exact_mod_cast Nat.pos_of_ne_zero nonzero
    have power : (2 : ℚ) ^ (BinaryFormat.double.minExponent - 1) < 2 ^ rounded.2 :=
      zpow_lt_zpow_right₀ one_lt_two (by omega)
    have whole : (2 : ℚ) ^ rounded.2 ≤ rounded.1 * 2 ^ rounded.2 :=
      le_mul_of_one_le_left (zpow_pos two_pos _).le one
    rw [Underflows, ratio_eq] at underflows
    linarith

/-- **Doubles are narrowed to zero up to half of the smallest number** of the narrower format, and only
those. -/
theorem any_isZero_narrow? {format : BinaryFormat} {negative : Bool}
    (precise : 0 < format.precision) (coarse : BinaryFormat.double.minExponent ≤ format.minExponent)
    (wide : format.minExponent ≤ format.maxExponent) :
    (narrow? format (.finite negative significand exponent)).any isZero = true ↔
      significand = 0 ∨ (significand : ℚ) * 2 ^ exponent ≤ 2 ^ (format.minExponent - 1) := by
  cases run : narrow? format (.finite negative significand exponent) with
  | some number => exact isZero_narrow? precise coarse run
  | none =>
      -- What is too large for the format does not underflow.
      refine iff_of_false Bool.false_ne_true fun small => ?_
      have least : format.round? (ratio significand exponent).1 (ratio significand exponent).2 =
          some (0, format.minExponent) := by
        rcases Nat.eq_zero_or_pos (ratio significand exponent).1 with zero | top
        · rw [zero, round?_zero]
        · refine round?_of_underflows wide top (ratio_pos _ _) ?_
          rw [Underflows, ratio_eq]
          exact small.resolve_left (mt ratio_fst_eq_zero.mpr top.ne')
      have zero : (ratio 0 format.minExponent).1 = 0 := ratio_fst_eq_zero.mpr rfl
      rw [narrow?_finite, least, Option.bind_some, zero, ofRatio?, round?_zero] at run
      cases run

/-- **Integers other than zero stay so in a narrower format** with numbers below one. -/
theorem narrow?_ofInt? {format : BinaryFormat} {integer : Int} {number narrowed : Double}
    (precise : 0 < format.precision) (coarse : BinaryFormat.double.minExponent ≤ format.minExponent)
    (fine : format.minExponent < 0) (run : ofInt? integer = some number)
    (narrowing : number.narrow? format = some narrowed) :
    narrowed.isZero = true ↔ integer = 0 := by
  obtain ⟨rounded, rounding, rfl⟩ := Option.map_eq_some_iff.mp run
  have zero := isZero_ofInt? run
  rw [isZero, beq_iff_eq] at zero
  rw [isZero_narrow? precise coarse narrowing, zero]
  refine or_iff_left_of_imp fun (underflows : _ ≤ _) => ?_
  by_contra nonzero
  have top : 0 < integer.natAbs := Int.natAbs_pos.mpr nonzero
  have bound := le_two_mul_round? (by decide) top Nat.one_pos rounding (mt zero.mp nonzero)
  have one : (1 : ℚ) ≤ integer.natAbs := by exact_mod_cast top
  have small : (2 : ℚ) ^ (format.minExponent - 1) ≤ 2 ^ (-2 : Int) :=
    zpow_le_zpow_right₀ one_le_two (by omega)
  have quarter : (2 : ℚ) ^ (-2 : Int) = 1 / 4 := by norm_num
  rw [quarter] at small
  rw [Nat.cast_one, div_one] at bound
  linarith

end Double

end StructuredIR
