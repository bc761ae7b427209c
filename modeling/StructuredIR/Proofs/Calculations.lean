import StructuredIR.Proofs.Conforming
import StructuredIR.Proofs.Divisions

/-! # Literals in calculations

A sum, a difference, a product, a quotient, a remainder and whatever is chosen by a mnemonic works on
two values. If only one of them is an operand, the other one is a literal, which is coerced to the type
of the operand. Arithmetic and bitwise operations check that both operands are of one type;
comparisons do not.

* **`Calculation.run`** is one of these operations on two values, and **`Calculation.runOn`** has an
  operand and a literal, on either side.
* **`Calculation.operandTypes`**: what is added has two operands of the operand's type exactly if the
  literal conforms to the type, and always unless it is a comparison. -/

namespace StructuredIR

open Build (FailsIn Leads bind_eq_ok pure_eq_ok)

/-- An operation on two values. -/
inductive Calculation where
  /-- Their sum. -/
  | sum
  /-- Their difference. -/
  | difference
  /-- Their product. -/
  | product
  /-- Their quotient, with or without sign. -/
  | quotient (signed : Bool)
  /-- What their quotient leaves, with or without sign. -/
  | remainder (signed : Bool)
  /-- A bitwise operation or comparison that is chosen by a mnemonic. -/
  | chosen (mnemonic : Value)

/-- The side of a calculation on which there is a literal. -/
inductive Side where
  /-- The literal is the left one. -/
  | left
  /-- The literal is the right one. -/
  | right

/-- An operand and what stands on the other side of it, in order. -/
def Side.order {Item : Type} (known literal : Item) : Side → Item × Item
  | left => (literal, known)
  | right => (known, literal)

namespace Calculation

/-- A generator calculates with two values. -/
def run (place : GeneratorId) (left right : Value) : Calculation → Build Value
  | sum => Generator.sum place left right
  | difference => Generator.difference place left right
  | product => Generator.product place left right
  | quotient signed => Generator.divide place .div left right signed
  | remainder signed => Generator.divide place .rem left right signed
  | chosen mnemonic => Generator.operate place mnemonic left right

/-- A generator calculates with an operand and a literal. -/
def runOn (calculation : Calculation) (place : GeneratorId) (side : Side) (known : Operand)
    (literal : Value) : Build Value :=
  let values := side.order (.operand known) literal
  calculation.run place values.1 values.2

/-- Whether a calculation is a comparison. -/
def compares : Calculation → Bool
  | chosen mnemonic =>
      match mnemonic.text?.bind Mnemonic.ofText? with
      | some (.ofInts _) | some (.ofFloats _) => true
      | _ => false
  | _ => false

end Calculation

/-- **All that has happened is one operation** on two operands, where a generator was. -/
def Generator.Combines (place : GeneratorId) (operands : Operand × Operand)
    (before after : World) : Prop :=
  ∃ here made, (before.generator place).block = .operand (.block here) ∧
    made.operation.operands = [.operand operands.1, .operand operands.2] ∧
      ChangesRow here (· ++ [made]) before after

/-- What a mnemonic chooses works on its two operands. -/
theorem Mnemonic.operands_apply (mnemonic : Mnemonic) (left right : Operand) :
    (mnemonic.apply left right).operands = [.operand left, .operand right] := by
  cases mnemonic <;> rfl

/-- A text is a name of itself. -/
theorem Build.nameOf_of_text? {value : Value} {content : String} (known : value.text? = some content)
    (world : World) : ∃ name, name.shown = value ∧ nameOf value world = .ok name world := by
  cases value with
  | text content => exact ⟨_, rfl, rfl⟩
  | visibility word => exact ⟨_, rfl, rfl⟩
  | policy word => exact ⟨_, rfl, rfl⟩
  | _ => cases known

/-- What is named is shown as it is. -/
theorem Build.shown_nameOf {value : Value} {name : Name} {world after : World}
    (run : nameOf value world = .ok name after) : name.shown = value := by
  obtain ⟨_, _, _, run⟩ := bind_eq_ok.mp run
  obtain ⟨_, _, _, run⟩ := bind_eq_ok.mp run
  obtain ⟨rfl, -⟩ := pure_eq_ok.mp run
  rfl

namespace Generator

variable {place : GeneratorId} {world after : World}

/-! ## Pairs -/

/-- **A literal is coerced to the type of the operand that it meets**, on either side of it. -/
theorem coercePair_ok {side : Side} {known : Operand} {literal : Value} {operands : Operand × Operand}
    (plain : ∀ other, literal ≠ .operand other)
    (run : coercePair place (side.order (.operand known) literal).1
      (side.order (.operand known) literal).2 world = .ok operands after) :
    ∃ made, operands = side.order known made ∧
      coerce place literal (some known.type) world = .ok made after := by
  cases side with
  | right =>
      obtain ⟨made, _, coerced, run⟩ := bind_eq_ok.mp run
      obtain ⟨rfl, rfl⟩ := pure_eq_ok.mp run
      exact ⟨made, rfl, coerced⟩
  | left =>
      have pair : coercePair place literal (.operand known) =
          (do return (← coerce place literal (some known.type), known)) := by
        cases literal with
        | operand other => exact absurd rfl (plain other)
        | _ => rfl
      obtain ⟨made, _, coerced, run⟩ := bind_eq_ok.mp (pair ▸ run)
      obtain ⟨rfl, rfl⟩ := pure_eq_ok.mp run
      exact ⟨made, rfl, coerced⟩

/-- An operation on two operands that were made by coercions is all that has happened. -/
theorem combines_emit (operands : Operand × Operand) {operation : Operation} {between : World}
    {value : Operand} (same : SameCode world between)
    (works : operation.operands = [.operand operands.1, .operand operands.2])
    (run : emit place operation between = .ok value after) :
    Combines place operands world after ∧ ∃ type, operation.check = .ok type := by
  obtain ⟨here, _, positioned, run⟩ := bind_eq_ok.mp run
  obtain ⟨known, rfl⟩ := position_ok positioned
  obtain ⟨made, does, checked, -, -, changes⟩ := Build.emit_ok run
  exact ⟨⟨here, made, same.generator place ▸ known, does ▸ works, changes.behind same⟩, _, checked⟩

/-- An arithmetic operation is one on two operands of one type. -/
theorem combines_arithmetic {operation : Arithmetic} {signed : Bool} {left right : Value}
    {value : Operand} (run : arithmetic place operation signed left right world = .ok value after) :
    ∃ operands between, coercePair place left right world = .ok operands between ∧
      Combines place operands world after ∧ operands.1.type = operands.2.type := by
  obtain ⟨⟨first, second⟩, between, paired, run⟩ := bind_eq_ok.mp run
  have same : SameCode world between := (leads_coercePair place left right).of_ok paired
  cases known : operation.onType? signed first.type with
  | none =>
      simp only [known] at run
      cases run
  | some chosen =>
      simp only [known] at run
      obtain ⟨combines, _, checked⟩ := combines_emit (first, second) same rfl run
      exact ⟨_, between, paired, combines, Operation.check_binary checked⟩

/-! ## Mnemonics -/

/-- What is chosen by a mnemonic, where the generator is not finished. -/
def operateOpen (place : GeneratorId) (mnemonic left right : Value) : Build Operand := do
  let name ← Build.nameOf mnemonic
  match name.shown.text?.bind Mnemonic.ofText? with
  | none => Build.reject (.unknownOperation (← Build.plain mnemonic))
  | some operation =>
      let (left, right) ← coercePair place left right
      emit place (operation.apply left right)

/-- A mnemonic is looked up only where the generator is not finished. -/
theorem operate_eq (place : GeneratorId) (mnemonic left right : Value) :
    operate place mnemonic left right =
      operandUnlessFinished place (operateOpen place mnemonic left right) :=
  rfl

/-- What a mnemonic chooses is one operation on two operands, which are of one type if it is bitwise. -/
theorem combines_operateOpen {mnemonic left right : Value} {value : Operand}
    (run : operateOpen place mnemonic left right world = .ok value after) :
    ∃ operands between, coercePair place left right world = .ok operands between ∧
      Combines place operands world after ∧
        ((Calculation.chosen mnemonic).compares = false → operands.1.type = operands.2.type) := by
  obtain ⟨name, start, naming, run⟩ := bind_eq_ok.mp run
  have shown : name.shown = mnemonic := Build.shown_nameOf naming
  rw [shown] at run
  cases chosen : mnemonic.text?.bind Mnemonic.ofText? with
  | none =>
      simp only [chosen] at run
      obtain ⟨_, _, _, thrown⟩ := bind_eq_ok.mp run
      cases thrown
  | some operation =>
      simp only [chosen] at run
      -- Only a text chooses, and a text is a name of itself.
      obtain ⟨content, known, -⟩ := Option.bind_eq_some_iff.mp chosen
      obtain ⟨_, -, named⟩ := Build.nameOf_of_text? known world
      obtain rfl : world = start := by
        rw [named] at naming
        cases naming
        rfl
      obtain ⟨⟨first, second⟩, between, paired, run⟩ := bind_eq_ok.mp run
      have same : SameCode world between := (leads_coercePair place left right).of_ok paired
      obtain ⟨combines, _, checked⟩ := combines_emit (first, second) same
        (operation.operands_apply _ _) run
      refine ⟨_, between, paired, combines, fun bitwise => ?_⟩
      cases operation with
      | bitwise operation => exact Operation.check_binary checked
      | ofInts predicate | ofFloats predicate => simp [Calculation.compares, chosen] at bitwise

/-! ## Unless the generator is finished -/

/-- What gives an operand unless a generator is finished has done it, or nothing. -/
theorem operandUnlessFinished_ok {action : Build Operand} {value : Value}
    (run : operandUnlessFinished place action world = .ok value after) :
    (world.generator place).isFinished = true ∧ after = world ∨
      (world.generator place).isFinished = false ∧ ∃ result, action world = .ok result after := by
  rw [operandUnlessFinished] at run
  cases finished : (world.generator place).isFinished with
  | true =>
      rw [unlessFinished_of_isFinished finished] at run
      cases run
      exact .inl ⟨rfl, rfl⟩
  | false =>
      rw [unlessFinished_of_not_isFinished finished] at run
      obtain ⟨result, _, acted, run⟩ := bind_eq_ok.mp run
      obtain ⟨-, rfl⟩ := pure_eq_ok.mp run
      exact .inr ⟨rfl, result, acted⟩

/-- What a quotient or remainder is, if it is not refused for its divisor. -/
theorem divide_eq_of_ok {operation : Arithmetic} {left right value : Value} {signed : Bool}
    (run : divide place operation left right signed world = .ok value after) :
    operandUnlessFinished place (arithmetic place operation signed left right) world =
      .ok value after := by
  cases zero : right.isStaticZero with
  | true =>
      simp only [divide, zero, if_true] at run
      cases run
  | false => rwa [divide_of_not_isStaticZero zero] at run

end Generator

namespace Calculation

variable {place : GeneratorId} {world after : World} {left right : Value}

/-- A calculation that fails adds no instruction. -/
theorem failsIn_run (calculation : Calculation) :
    FailsIn SameCode (calculation.run place left right) := by
  cases calculation with
  | sum | difference | product =>
      exact Generator.failsIn_operandUnlessFinished Generator.failsIn_arithmetic
  | quotient | remainder => exact Generator.failsIn_divide
  | chosen mnemonic => exact Generator.failsIn_operate mnemonic left right

/-- A calculation of a generator that is not finished is one operation on what the two values become.
Both are of one type unless it compares. -/
theorem run_ok {calculation : Calculation} {value : Value}
    (run : calculation.run place left right world = .ok value after) :
    (world.generator place).isFinished = true ∧ after = world ∨
      (world.generator place).isFinished = false ∧ ∃ operands between,
        Generator.coercePair place left right world = .ok operands between ∧
          Generator.Combines place operands world after ∧
            (calculation.compares = false → operands.1.type = operands.2.type) := by
  -- Everything but what is chosen by a mnemonic is arithmetic.
  have arithmetical {operation : Arithmetic} {signed : Bool} (compares : Bool)
      (run : Generator.operandUnlessFinished place
        (Generator.arithmetic place operation signed left right) world = .ok value after) :
      (world.generator place).isFinished = true ∧ after = world ∨
        (world.generator place).isFinished = false ∧ ∃ operands between,
          Generator.coercePair place left right world = .ok operands between ∧
            Generator.Combines place operands world after ∧
              (compares = false → operands.1.type = operands.2.type) := by
    rcases Generator.operandUnlessFinished_ok run with finished | ⟨unfinished, result, acted⟩
    · exact .inl finished
    · obtain ⟨operands, between, paired, combines, types⟩ := Generator.combines_arithmetic acted
      exact .inr ⟨unfinished, operands, between, paired, combines, fun _ => types⟩
  cases calculation with
  | sum | difference | product => exact arithmetical _ run
  | quotient | remainder => exact arithmetical _ (Generator.divide_eq_of_ok run)
  | chosen mnemonic =>
      rw [Calculation.run, Generator.operate_eq] at run
      rcases Generator.operandUnlessFinished_ok run with finished | ⟨unfinished, result, acted⟩
      · exact .inl finished
      · exact .inr ⟨unfinished, Generator.combines_operateOpen acted⟩

/-- **A literal takes the type of the operand that it meets** if it conforms to that type, on either
side and in every calculation. A calculation that fails adds nothing; one that succeeds adds one
operation on the operand and on what the literal is coerced to. Both of these are of the operand's type
exactly if the literal conforms, and always unless they are compared. -/
theorem operandTypes (calculation : Calculation) (place : GeneratorId) (side : Side)
    (known : Operand) {literal : Value} (plain : ∀ other, literal ≠ .operand other) (world : World) :
    (∀ fault after, calculation.runOn place side known literal world = .error fault after →
      SameCode world after) ∧
    ∀ value after, calculation.runOn place side known literal world = .ok value after →
      (world.generator place).isFinished = true ∧ after = world ∨
        (world.generator place).isFinished = false ∧ ∃ made between,
          Generator.coerce place literal (some known.type) world = .ok made between ∧
            Generator.Combines place (side.order known made) world after ∧
              (made.type = known.type ↔ world.conforms known.type literal = true) ∧
                (calculation.compares = false → made.type = known.type) := by
  refine ⟨calculation.failsIn_run world, fun value after run => ?_⟩
  rcases run_ok run with finished | ⟨unfinished, operands, between, paired, combines, types⟩
  · exact .inl finished
  obtain ⟨made, rfl, coerced⟩ := Generator.coercePair_ok plain paired
  refine .inr ⟨unfinished, made, between, coerced, combines, Generator.type_coerce_iff coerced,
    fun arithmetical => ?_⟩
  cases side with
  | left => exact types arithmetical
  | right => exact (types arithmetical).symm

/-- A five that is added to an integer of 32 bits is one of 32 bits. -/
theorem operandTypes_of_five :
    (∀ other, Value.integer 5 ≠ .operand other) ∧
      ∃ made between,
        Generator.coerce 0 (.integer 5) (some (.int 32)) FunctionBody.oneFunction =
            .ok made between ∧
          Generator.Combines 0 (.integer (.int 32) 2, made) FunctionBody.oneFunction
            ((sum.runOn 0 .right (.integer (.int 32) 2) (.integer 5)).after
              FunctionBody.oneFunction) ∧
            made.type = .int 32 := by
  have plain : ∀ other, Value.integer 5 ≠ .operand other := fun _ same => by cases same
  have done : (sum.runOn 0 .right (.integer (.int 32) 2) (.integer 5)).succeeds
      FunctionBody.oneFunction = true := by
    decide +kernel
  obtain ⟨value, run⟩ := Build.ok_of_succeeds done
  rcases (sum.operandTypes 0 .right (.integer (.int 32) 2) plain FunctionBody.oneFunction).2 value _
    run with ⟨finished, -⟩ | ⟨-, made, between, coerced, combines, conforms, -⟩
  · cases finished
  · exact ⟨plain, made, between, coerced, combines, conforms.mpr rfl⟩

/-- **A truth value that is compared with a wider integer stays a single bit**, and a list that is
compared with an array stays as long as it is. -/
theorem compares_misfits :
    (((chosen (.text "eq")).runOn 0 .left (.integer (.int 32) 5) (.truth true)).succeeds
        FunctionBody.oneFunction = true ∧
      (((((chosen (.text "eq")).runOn 0 .left (.integer (.int 32) 5) (.truth true)).after
        FunctionBody.oneFunction).row FunctionBody.onlyBody.entry).map Instruction.operation) =
          [.compareInt .eq (.integer (.int 1) 1) (.integer (.int 32) 5)]) ∧
    ((chosen (.text "ne")).runOn 0 .right (.absent (.array 2 (.int 8))) (.list [.integer 1])).succeeds
        FunctionBody.oneFunction = true ∧
      (((((chosen (.text "ne")).runOn 0 .right (.absent (.array 2 (.int 8)))
        (.list [.integer 1])).after FunctionBody.oneFunction).row
          FunctionBody.onlyBody.entry).map Instruction.operation) =
            [.compareInt .ne (.absent (.array 2 (.int 8)))
              (.aggregate (.array 1 (.int 8)) [.integer (.int 8) 1])] :=
  ⟨⟨by decide +kernel, rfl⟩, by decide +kernel, rfl⟩

end Calculation

end StructuredIR
