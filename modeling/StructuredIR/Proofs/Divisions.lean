import StructuredIR.Proofs.Refusals
import StructuredIR.Proofs.Returns.Funnel
import StructuredIR.Proofs.Wrapping

/-! # Divisions by zero

A quotient or remainder by a constant zero is refused. What is looked at is the divisor as it is
given, before it becomes an operand of the type in which the division is done.

* **`Operand.isZeroConstant`** says that an operand is a constant that equals zero in its type.
* **`Value.vanishesIn`** says that a divisor becomes such a constant although it is none as it is
  given: a number other than zero may be wrapped, cut off or rounded to zero, and a constant may be a
  zero without being made from one.
* **`Generator.divide_guards`**: what is a zero as it is given is refused. Of all other divisors,
  those that vanish are divided by, and only those lead to a division by a constant zero. -/

namespace StructuredIR

open Build (Leads FailsIn bind_eq_ok get_eq_ok pure_eq_ok lift_eq_ok throw_ne_ok)

/-! ## Zeros of a type -/

/-- Whether an integer is zero modulo the width of an integer type. -/
def IRType.wrapsToZero (value : Int) : IRType → Bool
  | .int width => value % (Nat.pow 2 width : Nat) == 0
  | _ => false

/-- Whether a floating-point type rounds a double to zero. -/
def IRType.roundsToZero (value : Double) : IRType → Bool
  | .half => (value.narrow? .half).any Double.isZero
  | .float => (value.narrow? .single).any Double.isZero
  | .double => value.isZero
  | _ => false

/-- **Whether an operand is a constant that equals zero in its type**: modulo the width of an integer
type, and after rounding to a floating-point type. -/
def Operand.isZeroConstant : Operand → Bool
  | .absent type => type.isInt || type.isFloat
  | .truth _ value => !value
  | .integer type value => type.wrapsToZero value || (Double.ofInt? value).any type.roundsToZero
  | .real type value => type.roundsToZero value
  | .verbatim type content =>
      (Number.readInt? content).any type.wrapsToZero ||
        type = .double && (Number.readDouble? content).any Double.isZero
  | _ => false

/-- **Whether a value becomes a zero constant of a type** without being a zero as it is given. -/
def Value.vanishesIn (type : IRType) : Value → Bool
  | .integer value => value != 0 && type.wrapsToZero value
  | .real value =>
      !value.isZero && (value.truncate?.any type.wrapsToZero || type.roundsToZero value)
  | .operand known => known.isZeroConstant && !known.isZeroNumber
  | _ => false

namespace IRType

/-- Wrapping an integer to its width does not change what it is modulo the width. -/
theorem wrapsToZero_wrap (width : Nat) (value : Int) :
    (int width).wrapsToZero (Operand.wrap width value) = (int width).wrapsToZero value := by
  rw [wrapsToZero, wrapsToZero, Operand.wrap_emod]

/-- Only integers are wrapped. -/
theorem wrapsToZero_isFloat {type : IRType} (float : type.isFloat = true) (value : Int) :
    type.wrapsToZero value = false := by
  cases type with
  | int width => cases float
  | _ => rfl

/-- Sixteen-bit numbers are rounded to zero up to half of the smallest one. -/
theorem roundsToZero_half {negative : Bool} {significand : Nat} {exponent : Int} :
    half.roundsToZero (.finite negative significand exponent) = true ↔
      significand = 0 ∨ (significand : ℚ) * 2 ^ exponent ≤ 2 ^ (-25 : Int) :=
  Double.any_isZero_narrow? (by decide) (by decide) (by decide)

/-- Thirty-two-bit numbers are rounded to zero up to half of the smallest one. -/
theorem roundsToZero_float {negative : Bool} {significand : Nat} {exponent : Int} :
    float.roundsToZero (.finite negative significand exponent) = true ↔
      significand = 0 ∨ (significand : ℚ) * 2 ^ exponent ≤ 2 ^ (-150 : Int) :=
  Double.any_isZero_narrow? (by decide) (by decide) (by decide)

/-- Integers other than zero are not rounded to zero. -/
theorem roundsToZero_ofInt? (type : IRType) {integer : Int} (nonzero : integer ≠ 0) :
    (Double.ofInt? integer).any type.roundsToZero = false := by
  cases run : Double.ofInt? integer with
  | none => rfl
  | some number =>
      have narrowed {format : BinaryFormat} (precise : 0 < format.precision)
          (coarse : BinaryFormat.double.minExponent ≤ format.minExponent)
          (fine : format.minExponent < 0) : (number.narrow? format).any Double.isZero = false := by
        cases narrowing : number.narrow? format with
        | none => rfl
        | some narrowed =>
            rw [Option.any_some, Bool.eq_false_iff, Ne,
              Double.narrow?_ofInt? precise coarse fine run narrowing]
            exact nonzero
      rw [Option.any_some]
      cases type with
      | half => exact narrowed (by decide) (by decide) (by decide)
      | float => exact narrowed (by decide) (by decide) (by decide)
      | double =>
          rw [roundsToZero, Bool.eq_false_iff, Ne, Double.isZero_ofInt? run]
          exact nonzero
      | _ => rfl

end IRType

/-! ## Coercions to numbers -/

namespace Coercion

variable {pool : Option LibraryId} {type : IRType} {operand : Operand} {world after : World}

/-- An integer of a floating-point type is the double that is nearest to it. -/
theorem ofInteger_isFloat {value : Int} (float : type.isFloat = true)
    (run : ofInteger value (some type) = .ok operand) :
    ∃ number, Double.ofInt? value = some number ∧ operand = .real type number := by
  cases type with
  | half | float | double =>
      simp only [ofInteger, IRType.isFloat] at run
      cases rounded : Double.ofInt? value with
      | some number =>
          rw [rounded] at run
          cases run
          exact ⟨number, rfl, rfl⟩
      | none =>
          rw [rounded] at run
          cases run
  | _ => cases float

/-- A double of a floating-point type stays what it is. -/
theorem ofReal_isFloat {value : Double} (float : type.isFloat = true)
    (run : ofReal value (some type) = .ok operand) : operand = .real type value := by
  cases type with
  | half | float | double =>
      cases run
      rfl
  | _ => cases float

/-- A double of an integer type is the integer part of the double, wrapped to the width. -/
theorem ofReal_int {width : Nat} {value : Double}
    (run : ofReal value (some (.int width)) = .ok operand) :
    ∃ whole, value.truncate? = some whole ∧ operand = .wrapped width whole := by
  cases value with
  | finite negative significand exponent =>
      cases run
      exact ⟨_, rfl, rfl⟩
  | _ => cases run

/-- An integer constant of an integer type is a zero constant modulo the width only. -/
theorem isZeroConstant_wrapped (width : Nat) (value : Int) :
    (Operand.wrapped width value).isZeroConstant = (IRType.int width).wrapsToZero value := by
  have none_rounds : (Double.ofInt? (Operand.wrap width value)).any
      (IRType.int width).roundsToZero = false := by
    cases Double.ofInt? (Operand.wrap width value) <;> rfl
  rw [Operand.wrapped, Operand.isZeroConstant, none_rounds, Bool.or_false,
    IRType.wrapsToZero_wrap]

/-- An integer other than zero becomes a zero constant exactly if it vanishes. -/
theorem isZeroConstant_ofInteger {value : Int} (nonzero : value ≠ 0)
    (number : type.isInt = true ∨ type.isFloat = true)
    (run : ofInteger value (some type) = .ok operand) :
    operand.isZeroConstant = (Value.integer value).vanishesIn type := by
  have given : (value != 0) = true := bne_iff_ne.mpr nonzero
  rw [Value.vanishesIn, given, Bool.true_and]
  rcases number with int | float
  · cases type with
    | int width =>
        cases run
        exact isZeroConstant_wrapped width value
    | _ => cases int
  · obtain ⟨number, rounded, rfl⟩ := ofInteger_isFloat float run
    have never := IRType.roundsToZero_ofInt? type nonzero
    rw [rounded] at never
    rw [IRType.wrapsToZero_isFloat float]
    exact never

/-- A double other than zero becomes a zero constant exactly if it vanishes. -/
theorem isZeroConstant_ofReal {value : Double} (nonzero : value.isZero = false)
    (number : type.isInt = true ∨ type.isFloat = true)
    (run : ofReal value (some type) = .ok operand) :
    operand.isZeroConstant = (Value.real value).vanishesIn type := by
  rw [Value.vanishesIn, nonzero, Bool.not_false, Bool.true_and]
  rcases number with int | float
  · cases type with
    | int width =>
        obtain ⟨whole, cut, rfl⟩ := ofReal_int run
        rw [isZeroConstant_wrapped, cut]
        exact (Bool.or_false _).symm
    | _ => cases int
  · obtain rfl := ofReal_isFloat float run
    have never : value.truncate?.any type.wrapsToZero = false := by
      cases value.truncate? with
      | none => rfl
      | some whole => exact IRType.wrapsToZero_isFloat float whole
    rw [never, Bool.false_or]
    rfl

/-- No row becomes a number. -/
theorem wantedElement_number {value : Value} {first : Build IRType} {element : IRType}
    (number : type.isInt = true ∨ type.isFloat = true) :
    wantedElement value (some type) first world ≠ .ok element after := by
  cases type with
  | array size element => rcases number with number | number <;> cases number
  | _ => exact throw_ne_ok

/-- No text becomes a number. -/
theorem ofPhrase_number {phrase : Phrase} (number : type.isInt = true ∨ type.isFloat = true) :
    ofPhrase pool phrase (some type) world ≠ .ok operand after := by
  cases type with
  | pointer target => rcases number with number | number <;> cases number
  | _ =>
      intro run
      obtain ⟨_, _, thrown, _⟩ := bind_eq_ok.mp run
      exact throw_ne_ok thrown

/-- A single value that is no zero as it is given becomes a zero constant of a type of numbers
exactly if it vanishes. -/
theorem isZeroConstant_coerceSingle {value : Value} (nonzero : value.isStaticZero = false)
    (number : type.isInt = true ∨ type.isFloat = true)
    (run : coerceSingle pool value (some type) world = .ok operand after) :
    operand.isZeroConstant = value.vanishesIn type := by
  unfold coerceSingle at run
  split at run
  -- Operands and functions pass as they are. Of all else only truth values, integers and doubles are
  -- made into numbers.
  next known =>
    obtain ⟨rfl, -⟩ := pure_eq_ok.mp run
    have plain : known.isZeroNumber = false := nonzero
    rw [Value.vanishesIn, plain, Bool.not_false, Bool.and_true]
  next =>
    obtain ⟨_, _, looked, run⟩ := bind_eq_ok.mp run
    obtain ⟨rfl, -⟩ := pure_eq_ok.mp run
    rfl
  next value =>
    obtain rfl : value = true := by simpa [Value.isStaticZero] using nonzero
    have made := (lift_eq_ok.mp run).1
    unfold ofTruth at made
    split at made <;> cases made
    rfl
  next value =>
    have nonzero : value ≠ 0 := by simpa [Value.isStaticZero] using nonzero
    exact isZeroConstant_ofInteger nonzero number (lift_eq_ok.mp run).1
  next => exact isZeroConstant_ofReal nonzero number (lift_eq_ok.mp run).1
  next =>
    cases type with
    | pointer target => rcases number with number | number <;> cases number
    | _ => exact (throw_ne_ok run).elim
  next => exact (ofPhrase_number number run).elim
  next => exact (ofPhrase_number number run).elim
  next => exact (ofPhrase_number number run).elim
  next => exact (throw_ne_ok run).elim

/-- **A value that is no zero as it is given becomes a zero constant** of a type of numbers exactly if
it vanishes. -/
theorem isZeroConstant_coerce {value : Value} (nonzero : value.isStaticZero = false)
    (number : type.isInt = true ∨ type.isFloat = true)
    (run : coerce pool value (some type) world = .ok operand after) :
    operand.isZeroConstant = value.vanishesIn type := by
  cases value with
  | list items | tuple items | resolution kind target =>
      unfold coerce at run
      obtain ⟨_, _, chosen, -⟩ := bind_eq_ok.mp run
      exact (wantedElement_number number chosen).elim
  | liveRow row =>
      unfold coerce at run
      obtain ⟨_, _, looked, run⟩ := bind_eq_ok.mp run
      obtain ⟨_, _, chosen, -⟩ := bind_eq_ok.mp run
      exact (wantedElement_number number chosen).elim
  | _ =>
      unfold coerce at run
      exact isZeroConstant_coerceSingle nonzero number run

end Coercion

/-! ## Divisions -/

/-- Whether a binary operation is a division or leaves a remainder. -/
def BinaryOperation.isDivision : BinaryOperation → Bool
  | .sdiv | .udiv | .srem | .urem | .fdiv | .frem => true
  | _ => false

/-- Only numbers are calculated with. -/
theorem Arithmetic.isNumber_of_onType? {operation : Arithmetic} {signed : Bool} {type : IRType}
    {chosen : BinaryOperation} (known : operation.onType? signed type = some chosen) :
    type.isInt = true ∨ type.isFloat = true := by
  unfold onType? at known
  split at known
  next int => exact .inl int
  next =>
    split at known
    next float => exact .inr float
    next => cases known

/-- Quotients and remainders are divisions, of either kind of numbers. -/
theorem Arithmetic.isDivision_of_onType? {operation : Arithmetic} {signed : Bool} {type : IRType}
    {chosen : BinaryOperation} (division : operation = .div ∨ operation = .rem)
    (known : operation.onType? signed type = some chosen) : chosen.isDivision = true := by
  unfold onType? at known
  split at known
  · cases known
    rcases division with rfl | rfl <;> cases signed <;> rfl
  · split at known <;> cases known
    rcases division with rfl | rfl <;> rfl

/-- The operands of a binary operation are of one type. -/
theorem Operation.check_binary {chosen : BinaryOperation} {left right : Operand} {type : IRType}
    (checked : (Operation.binary chosen left right).check = .ok type) : left.type = right.type := by
  rw [check] at checked
  split at checked
  next same => exact same
  next => cases checked

namespace Generator

variable {place : GeneratorId} {world after : World}

/-- **All that has happened is one division** by an operand, where a generator was. -/
structure DividesBy (place : GeneratorId) (right : Operand) (before after : World) : Prop where
  /-- The divisor is in place, and its type is the one in which the division is done. -/
  division : ∃ here chosen left made, (before.generator place).block = .operand (.block here) ∧
    BinaryOperation.isDivision chosen = true ∧ left.type = right.type ∧
      made.operation = Operation.binary chosen left right ∧
        ChangesRow here (· ++ [made]) before after

/-- The right one of two operands is what the right value becomes in the type of the left one. -/
theorem coercePair_right {left right : Value} {first second : Operand}
    (run : coercePair place left right world = .ok (first, second) after) :
    ∃ between, coerce place right (some first.type) between = .ok second after := by
  unfold coercePair at run
  split at run
  · obtain ⟨given, between, second, run⟩ := bind_eq_ok.mp run
    obtain ⟨same, rfl⟩ := pure_eq_ok.mp run
    cases same
    exact ⟨world, second⟩
  · obtain ⟨given, between, first, run⟩ := bind_eq_ok.mp run
    obtain ⟨same, rfl⟩ := pure_eq_ok.mp run
    cases same
    exact ⟨between, rfl⟩
  · obtain ⟨given, between, first, run⟩ := bind_eq_ok.mp run
    obtain ⟨other, _, second, run⟩ := bind_eq_ok.mp run
    obtain ⟨same, rfl⟩ := pure_eq_ok.mp run
    cases same
    exact ⟨between, second⟩

/-- A quotient or remainder of two values is one division by what the right one becomes in the type
of the left one. -/
theorem divides_arithmetic {operation : Arithmetic} {signed : Bool} {left right : Value}
    {value : Operand} (division : operation = .div ∨ operation = .rem)
    (run : arithmetic place operation signed left right world = .ok value after) :
    ∃ divisor between final, (divisor.type.isInt = true ∨ divisor.type.isFloat = true) ∧
      coerce place right (some divisor.type) between = .ok divisor final ∧
        DividesBy place divisor world after := by
  obtain ⟨⟨first, second⟩, final, paired, run⟩ := bind_eq_ok.mp run
  have same : SameCode world final := (leads_coercePair place left right).of_ok paired
  obtain ⟨between, coerced⟩ := coercePair_right paired
  cases known : operation.onType? signed first.type with
  | none =>
      simp only [known] at run
      cases run
  | some chosen =>
      simp only [known] at run
      obtain ⟨here, _, positioned, run⟩ := bind_eq_ok.mp run
      obtain ⟨here_known, rfl⟩ := position_ok positioned
      obtain ⟨made, does, checked, -, -, changes⟩ := Build.emit_ok run
      have types := Operation.check_binary checked
      -- The divisor was coerced to the type of the dividend, which its own type now stands for.
      rw [types] at coerced known
      exact ⟨second, between, final, Arithmetic.isNumber_of_onType? known, coerced, here, chosen,
        first, made, same.generator place ▸ here_known,
        Arithmetic.isDivision_of_onType? division known, types, does, changes.behind same⟩

/-- A divisor that is no zero as it is given is not refused for being one. -/
theorem divide_of_not_isStaticZero {operation : Arithmetic} {signed : Bool}
    {dividend divisor : Value} (nonzero : divisor.isStaticZero = false) :
    divide place operation dividend divisor signed =
      operandUnlessFinished place (arithmetic place operation signed dividend divisor) := by
  rw [divide, nonzero]
  rfl

/-- **What is a zero as it is given is not divided by**, even by a finished generator. All other
divisors are divided by if anything is added at all, also those that vanish in the type of the
division; only these are constant zeros there. -/
theorem divide_guards {operation : Arithmetic} (division : operation = .div ∨ operation = .rem)
    (place : GeneratorId) (dividend divisor : Value) (signed : Bool) (world : World) :
    (divisor.isStaticZero = true →
      divide place operation dividend divisor signed world =
        .error (.rejected (.constantZero operation.text)) world) ∧
    (divisor.isStaticZero = false →
      (∀ fault after, divide place operation dividend divisor signed world = .error fault after →
        SameCode world after) ∧
      ∀ value after, divide place operation dividend divisor signed world = .ok value after →
        (world.generator place).isFinished = true ∧ after = world ∨
          (world.generator place).isFinished = false ∧ ∃ right between final,
            coerce place divisor (some right.type) between = .ok right final ∧
              DividesBy place right world after ∧
                (right.isZeroConstant = true ↔ divisor.vanishesIn right.type = true)) := by
  constructor
  · intro zero
    rw [divide, zero]
    rfl
  · intro nonzero
    rw [divide_of_not_isStaticZero nonzero, operandUnlessFinished]
    cases finished : (world.generator place).isFinished with
    | true =>
        rw [unlessFinished_of_isFinished finished]
        constructor
        · intro fault after run
          cases run
        · intro value after run
          cases run
          exact .inl ⟨rfl, rfl⟩
    | false =>
        rw [unlessFinished_of_not_isFinished finished]
        constructor
        · intro fault after run
          exact failsIn_arithmetic.result Value.operand world fault after run
        · intro value after run
          obtain ⟨result, _, calculated, run⟩ := bind_eq_ok.mp run
          obtain ⟨-, rfl⟩ := pure_eq_ok.mp run
          obtain ⟨right, between, final, number, coerced, divides⟩ :=
            divides_arithmetic division calculated
          -- What the divisor has become is what its coercion gives, in the type of the division.
          have zero := Coercion.isZeroConstant_coerce nonzero number (coerce_ok coerced)
          exact .inr ⟨rfl, right, between, final, coerced, divides, by rw [zero]⟩

/-- Three divided by two is one division, and its divisor is no zero. -/
theorem divide_three_by_two :
    (Arithmetic.div = .div ∨ Arithmetic.div = .rem) ∧
      ∃ right between final,
        coerce 0 (.integer 2) (some right.type) between = .ok right final ∧
          DividesBy 0 right FunctionBody.oneFunction
            ((divide 0 .div (.integer 3) (.integer 2) true).after FunctionBody.oneFunction) ∧
          (right.isZeroConstant = true ↔ (Value.integer 2).vanishesIn right.type = true) := by
  have division : Arithmetic.div = .div ∨ Arithmetic.div = .rem := .inl rfl
  have done : (divide 0 .div (.integer 3) (.integer 2) true).succeeds FunctionBody.oneFunction =
      true := by decide +kernel
  obtain ⟨value, run⟩ := Build.ok_of_succeeds done
  have guards :=
    (divide_guards division 0 (.integer 3) (.integer 2) true FunctionBody.oneFunction).2 rfl
  rcases guards.2 value _ run with ⟨finished, -⟩ | ⟨-, divides⟩
  · cases finished
  · exact ⟨division, divides⟩

/-- **An integer that vanishes is divided by**: 256 is no zero, but it is one in eight bits. -/
theorem divides_by_wrapped_zero :
    (Value.integer 256).isStaticZero = false ∧
      (divide 0 .div (.operand (.integer (.int 8) 7)) (.integer 256) true).succeeds
          FunctionBody.oneFunction = true ∧
        ((((divide 0 .div (.operand (.integer (.int 8) 7)) (.integer 256) true).after
          FunctionBody.oneFunction).row FunctionBody.onlyBody.entry).map Instruction.operation) =
            [.binary .sdiv (.integer (.int 8) 7) (.integer (.int 8) 0)] ∧
          (Operand.integer (.int 8) 0).isZeroConstant = true :=
  ⟨rfl, by decide +kernel, rfl, by decide⟩

end Generator

end StructuredIR
