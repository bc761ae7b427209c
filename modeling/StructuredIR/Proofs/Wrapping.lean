import StructuredIR.Coercion
import StructuredIR.Equality
import StructuredIR.Proofs.Effects
import StructuredIR.Proofs.Underflow

/-! # Wrapping

Integers of any size become constants of a width. Those that are congruent modulo the power of two
become the same constant, whose value stands for all of them: the signed one among them, or the
non-negative one if the width is a single bit. Floating-point numbers lose their fraction before.

* **`Operand.IsRepresentative`** says which integer stands for another one at a width, and
  **`Operand.isRepresentative_wrap`** that wrapping finds it.
* **`Operand.wrap_eq_wrap_iff`**: exactly the integers that are congruent wrap to the same one.
* **`Double.truncate?_eq`**: the integer part of a double is what its exact value is cut off to.
* **`Coercion.constant_canonical`**: the constant that an integer, or a number without its fraction,
  becomes at an integer type. -/

namespace StructuredIR

open Build (bind_eq_ok lift_eq_ok)

/-! ## Representatives -/

namespace Operand

/-- **An integer represents another one at a width**: it is congruent to it, and a single bit or a
signed number of the width. -/
structure IsRepresentative (width : Nat) (value representative : Int) : Prop where
  /-- Both are the same modulo the power of two. -/
  congruent : representative ≡ value [ZMOD 2 ^ width]
  /-- A single bit is not signed. -/
  single : width = 1 → representative = 0 ∨ representative = 1
  /-- All wider numbers are. -/
  signed : 1 < width → -2 ^ (width - 1) ≤ representative ∧ representative < 2 ^ (width - 1)

theorem natCast_two_pow (width : Nat) : ((Nat.pow 2 width : Nat) : Int) = 2 ^ width := by
  rw [Nat.pow_eq, Nat.cast_pow, Nat.cast_ofNat]

/-- Wrapping to a width keeps the remainder of an integer by the power of two. -/
theorem wrap_emod (width : Nat) (value : Int) :
    wrap width value % (Nat.pow 2 width : Nat) = value % (Nat.pow 2 width : Nat) := by
  unfold wrap
  split_ifs
  · exact Int.emod_emod_of_dvd _ dvd_rfl
  · rfl
  · exact Int.bmod_emod

/-- An integer is congruent to what it is wrapped to. -/
theorem wrap_modEq (width : Nat) (value : Int) : wrap width value ≡ value [ZMOD 2 ^ width] := by
  rw [← natCast_two_pow]
  exact wrap_emod width value

/-- **An integer is wrapped to what represents it.** -/
theorem isRepresentative_wrap (width : Nat) (value : Int) :
    IsRepresentative width value (wrap width value) where
  congruent := wrap_modEq width value
  single := by
    rintro rfl
    exact Int.emod_two_eq_zero_or_one value
  signed wide := by
    rw [wrap_eq_bmod wide]
    -- The power is even, so its half bounds the balanced remainder on both sides.
    obtain ⟨half, rfl⟩ : ∃ half, width = half + 1 := ⟨width - 1, by omega⟩
    have lower := Int.le_bmod (x := value) (BinaryFormat.two_pow_pos (half + 1))
    have upper := Int.bmod_lt (x := value) (BinaryFormat.two_pow_pos (half + 1))
    rw [natCast_two_pow, pow_succ] at lower upper
    rw [Nat.add_sub_cancel]
    omega

variable {width : Nat} {value other representative representative' : Int}

/-- At a width, any two representatives are less than the power of two apart. -/
theorem IsRepresentative.abs_sub_lt (bits : 1 ≤ width)
    (represents : IsRepresentative width value representative)
    (represents' : IsRepresentative width other representative') :
    |representative' - representative| < 2 ^ width := by
  rcases bits.eq_or_lt with rfl | wide
  · have bit := represents.single rfl
    have bit' := represents'.single rfl
    rw [abs_lt]
    omega
  · obtain ⟨half, rfl⟩ : ∃ half, width = half + 1 := ⟨width - 1, by omega⟩
    have range := represents.signed wide
    have range' := represents'.signed wide
    rw [Nat.add_sub_cancel] at range range'
    rw [abs_lt, pow_succ]
    omega

/-- **Congruent integers have the same representative.** -/
theorem IsRepresentative.unique (bits : 1 ≤ width)
    (represents : IsRepresentative width value representative)
    (represents' : IsRepresentative width other representative') (same : value ≡ other [ZMOD 2 ^ width]) :
    representative = representative' := by
  have congruent : representative ≡ representative' [ZMOD 2 ^ width] :=
    (represents.congruent.trans same).trans represents'.congruent.symm
  have near := represents.abs_sub_lt bits represents'
  exact (sub_eq_zero.mp (Int.eq_zero_of_abs_lt_dvd congruent.dvd near)).symm

/-- **Exactly the integers that are congruent wrap to the same one.** -/
theorem wrap_eq_wrap_iff (bits : 1 ≤ width) :
    wrap width value = wrap width other ↔ value ≡ other [ZMOD 2 ^ width] := by
  constructor
  · intro same
    calc value ≡ wrap width value [ZMOD 2 ^ width] := (wrap_modEq width value).symm
      _ ≡ other [ZMOD 2 ^ width] := same ▸ wrap_modEq width other
  · exact (isRepresentative_wrap width value).unique bits (isRepresentative_wrap width other)

/-- What an integer is wrapped to stays as it is. -/
theorem wrap_wrap (bits : 1 ≤ width) (value : Int) :
    wrap width (wrap width value) = wrap width value :=
  (wrap_eq_wrap_iff bits).mpr (wrap_modEq width value)

/-- No width is a negative number. -/
theorem wrappedAt_natCast (width : Nat) (value : Int) :
    wrappedAt width value = .ok (wrapped width value) := by
  rw [wrappedAt, if_neg (by omega), Int.toNat_natCast]

end Operand

/-! ## Integer parts -/

/-- A rational number without its fraction. -/
def cutOff (number : ℚ) : Int :=
  if 0 ≤ number then ⌊number⌋ else ⌈number⌉

theorem cutOff_neg (number : ℚ) : cutOff (-number) = -cutOff number := by
  unfold cutOff
  -- Numbers below zero are cut off upwards: negation exchanges floor and ceiling.
  rcases lt_trichotomy number 0 with below | rfl | above
  · rw [if_pos (by linarith), if_neg (by linarith), Int.floor_neg]
  · simp
  · rw [if_neg (by linarith), if_pos above.le, Int.ceil_neg]

namespace Double

/-- The exact value of a finite double. -/
def rational? : Double → Option ℚ
  | .finite negative significand exponent =>
      let magnitude : ℚ := significand * 2 ^ exponent
      some (if negative then -magnitude else magnitude)
  | _ => none

/-- A magnitude is cut off by the division of its ratio. -/
theorem cutOff_magnitude (significand : Nat) (exponent : Int) :
    cutOff (significand * 2 ^ exponent) =
      ((ratio significand exponent).1 / (ratio significand exponent).2 : Nat) := by
  rw [← ratio_eq, cutOff, if_pos (by positivity), Rat.floor_natCast_div_natCast, Int.natCast_ediv]

/-- **The integer part of a double** is what its exact value is cut off to. -/
theorem truncate?_eq (number : Double) : number.truncate? = number.rational?.map cutOff := by
  cases number with
  | finite negative significand exponent =>
      cases negative with
      | true => exact congrArg some ((cutOff_neg _).trans (congrArg _ (cutOff_magnitude ..))).symm
      | false => exact congrArg some (cutOff_magnitude significand exponent).symm
  | _ => rfl

end Double

namespace Value

/-- **The integer that a number is where an integer is wanted**: an integer itself, and a finite
floating-point number without its fraction. Truth values are no numbers here, as they become single
bits at all widths. -/
def wholeNumber? : Value → Option Int
  | .integer number => some number
  | .real number => number.rational?.map cutOff
  | _ => Option.none

/-- Where there is an integer part, it is the one that is found. -/
theorem integerOfReal_eq {number : Double} {whole : Int}
    (cut : (real number).wholeNumber? = some whole) : integerOfReal number = .ok whole := by
  rw [wholeNumber?, ← Double.truncate?_eq] at cut
  cases number with
  | finite negative significand exponent =>
      exact congrArg (fun part? : Option Int => Except.ok (part?.getD 0)) cut
  | _ => cases cut

end Value

/-! ## Equality of constants -/

/-- Integer constants of one type are equal exactly if their values are. -/
theorem Build.areEqual_integer (width : Nat) (left right : Int) (world : World) :
    areEqual (.operand (.integer (.int width) left)) (.operand (.integer (.int width) right)) world =
      .ok (decide (left = right)) world := by
  have key (value : Int) : keyOf (.operand (.integer (.int width) value)) world =
      .ok (.constant ((IRType.int width).text ++ " " ++ toString value)) world := rfl
  -- Constants are told apart by their texts, which begin with the same type here.
  have apart : (Key.constant ((IRType.int width).text ++ " " ++ toString left) =
      .constant ((IRType.int width).text ++ " " ++ toString right)) ↔ left = right := by
    rw [Key.constant.injEq, String.append_right_inj, Int.toString_eq_repr, Int.toString_eq_repr,
      Int.repr_inj]
  refine bind_eq_ok.mpr ⟨_, world, key left, bind_eq_ok.mpr ⟨_, world, key right, ?_⟩⟩
  rw [decide_eq_decide.mpr apart]
  rfl

/-! ## Conversions -/

namespace Coercion

variable {type : Value} {width : Nat} {whole : Int}

/-- A double without its fraction is a constant of an integer type. -/
theorem ofReal_wholeNumber {number : Double}
    (cut : (Value.real number).wholeNumber? = some whole) :
    ofReal number (some (.int width)) = .ok (.wrapped width whole) := by
  rw [ofReal, Value.integerOfReal_eq cut]
  rfl

/-- A number that is converted to an integer type is the constant of its integer part. -/
theorem coerceAs_wholeNumber {pool : Option LibraryId} {value : Value} {world : World}
    (wanted : type.asType "convert" = .ok (.int width)) (number : value.wholeNumber? = some whole) :
    coerceAs pool value type world = .ok (.wrapped width whole) world := by
  have converts : coerce pool value (some (.int width)) world = .ok (.wrapped width whole) world := by
    cases value with
    | integer known =>
        cases number
        rfl
    | real known =>
        unfold coerce coerceSingle
        exact lift_eq_ok.mpr ⟨ofReal_wholeNumber number, rfl⟩
    | _ => cases number
  unfold coerceAs
  split
  -- Nothing is no type.
  next => cases wanted
  next => exact bind_eq_ok.mpr ⟨_, world, lift_eq_ok.mpr ⟨wanted, rfl⟩, converts⟩

/-- **A constant is that of an integer** at a type of a width if it is made of the integer directly,
and of every number that is converted to the type and is the integer but for a fraction. -/
structure IsConstantOf (type : Value) (width : Nat) (whole : Int) (constant : Operand) : Prop where
  /-- The integer is wrapped to the width. -/
  direct : Operand.wrappedAt width whole = .ok constant
  /-- A number is converted, which changes nothing else. -/
  converted : ∀ (pool : Option LibraryId) (value : Value) (world : World),
    value.wholeNumber? = some whole → coerceAs pool value type world = .ok constant world

/-- Every integer has a constant. -/
theorem isConstantOf_wrapped (wanted : type.asType "convert" = .ok (.int width)) (whole : Int) :
    IsConstantOf type width whole (.wrapped width whole) where
  direct := Operand.wrappedAt_natCast width whole
  converted _ _ _ := coerceAs_wholeNumber wanted

/-- An integer has no other constant. -/
theorem IsConstantOf.eq_wrapped {constant : Operand}
    (made : IsConstantOf type width whole constant) : constant = .wrapped width whole :=
  (Except.ok.inj ((Operand.wrappedAt_natCast width whole).symm.trans made.direct)).symm

/-- **Integer constants are canonical.** The value of the constant of an integer represents the integer,
and is given once more where it is converted again. Two integers have the same constant exactly if
they are congruent modulo the power of two, and only then are their constants equal. -/
theorem constant_canonical (bits : 1 ≤ width) (wanted : type.asType "convert" = .ok (.int width))
    (whole : Int) :
    ∃ representative : Int,
      Operand.IsRepresentative width whole representative ∧
      IsConstantOf type width whole (.integer (.int width) representative) ∧
      IsConstantOf type width representative (.integer (.int width) representative) ∧
      ∀ (other : Int) (constant : Operand), IsConstantOf type width other constant →
        (constant = .integer (.int width) representative ↔ other ≡ whole [ZMOD 2 ^ width]) ∧
        ∀ world, Build.areEqual (.operand constant)
            (.operand (.integer (.int width) representative)) world =
          .ok (decide (other ≡ whole [ZMOD 2 ^ width])) world := by
  refine ⟨Operand.wrap width whole, Operand.isRepresentative_wrap width whole,
    isConstantOf_wrapped wanted whole, ?_, fun other constant made => ?_⟩
  · have again := isConstantOf_wrapped wanted (Operand.wrap width whole)
    rwa [Operand.wrapped, Operand.wrap_wrap bits] at again
  · obtain rfl := made.eq_wrapped
    rw [Operand.wrapped, Operand.integer.injEq, eq_self, true_and, Operand.wrap_eq_wrap_iff bits]
    refine ⟨Iff.rfl, fun world => ?_⟩
    rw [Build.areEqual_integer, decide_eq_decide.mpr (Operand.wrap_eq_wrap_iff bits)]

/-- As a byte, what is half below `-300` is `-44`, and so is `212`. -/
theorem constant_canonical_byte :
    1 ≤ 8 ∧ (Value.text "i8").asType "convert" = .ok (.int 8) ∧
      coerceAs none (.real (.finite true 5286451906347008 (-44))) (.text "i8") Script.initialWorld =
        .ok (.integer (.int 8) (-44)) Script.initialWorld ∧
      coerceAs none (.integer 212) (.text "i8") Script.initialWorld =
        .ok (.integer (.int 8) (-44)) Script.initialWorld := by
  have wanted : (Value.text "i8").asType "convert" = .ok (.int 8) := by decide +kernel
  have number : (Value.real (.finite true 5286451906347008 (-44))).wholeNumber? = some (-300) := by
    decide +kernel
  obtain ⟨representative, represents, made, -, others⟩ :=
    constant_canonical (by decide) wanted (-300)
  have value : representative = -44 := by
    have range := represents.signed (by decide)
    have congruent : representative % 256 = -300 % 256 := represents.congruent
    omega
  subst value
  obtain ⟨second, -, made', -⟩ := constant_canonical (by decide) wanted 212
  have same : Operand.integer (.int 8) second = .integer (.int 8) (-44) :=
    (others 212 _ made').1.mpr rfl
  exact ⟨by decide, wanted, made.converted none _ _ number, same ▸ made'.converted none _ _ rfl⟩

end Coercion

end StructuredIR
