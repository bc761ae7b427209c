import StructuredIR.Generator.Basic

/-! # Arithmetic

Sums, products, quotients, shifts, bitwise operations and comparisons. The operation is chosen by
the type of the left operand; a literal takes the type of the operand that it meets. -/

namespace StructuredIR

/-! ## Choosing an operation -/

/-- The arithmetic operations on numbers of either kind. -/
inductive Arithmetic where
  /-- A sum. -/
  | add
  /-- A difference. -/
  | sub
  /-- A product. -/
  | mul
  /-- A quotient. -/
  | div
  /-- A remainder. -/
  | rem
  deriving DecidableEq, Repr

namespace Arithmetic

/-- What complaints call an operation. -/
def text : Arithmetic → String
  | .add => "add"
  | .sub => "sub"
  | .mul => "mul"
  | .div => "div"
  | .rem => "rem"

/-- The operation on integers, with or without sign. -/
def onIntegers (signed : Bool) : Arithmetic → BinaryOperation
  | .add => .add
  | .sub => .sub
  | .mul => .mul
  | .div => if signed then .sdiv else .udiv
  | .rem => if signed then .srem else .urem

/-- The operation on floating-point numbers. -/
def onFloats : Arithmetic → BinaryOperation
  | .add => .fadd
  | .sub => .fsub
  | .mul => .fmul
  | .div => .fdiv
  | .rem => .frem

/-- The operation on values of a type, if they are numbers. -/
def onType? (operation : Arithmetic) (signed : Bool) (type : IRType) : Option BinaryOperation :=
  if type.isInt then some (operation.onIntegers signed)
  else if type.isFloat then some operation.onFloats
  else none

end Arithmetic

/-- The bitwise operations and comparisons that are chosen by their mnemonics. -/
inductive Mnemonic where
  /-- A bitwise operation. -/
  | bitwise (operation : BinaryOperation)
  /-- A comparison of integers or pointers. -/
  | ofInts (predicate : IntPredicate)
  /-- A comparison of floating-point numbers. -/
  | ofFloats (predicate : FloatPredicate)
  deriving DecidableEq, Repr

namespace Mnemonic

/-- The operation of a mnemonic. -/
def ofText? : String → Option Mnemonic
  | "and" => some (.bitwise .and)
  | "or" => some (.bitwise .or)
  | "xor" => some (.bitwise .xor)
  | "eq" => some (.ofInts .eq)
  | "ne" => some (.ofInts .ne)
  | "ugt" => some (.ofInts .ugt)
  | "uge" => some (.ofInts .uge)
  | "ult" => some (.ofInts .ult)
  | "ule" => some (.ofInts .ule)
  | "sgt" => some (.ofInts .sgt)
  | "sge" => some (.ofInts .sge)
  | "slt" => some (.ofInts .slt)
  | "sle" => some (.ofInts .sle)
  | "ord" => some (.ofFloats .ord)
  | "uno" => some (.ofFloats .uno)
  | "oeq" => some (.ofFloats .oeq)
  | "ogt" => some (.ofFloats .ogt)
  | "oge" => some (.ofFloats .oge)
  | "olt" => some (.ofFloats .olt)
  | "ole" => some (.ofFloats .ole)
  | "one" => some (.ofFloats .one)
  | "ueq" => some (.ofFloats .ueq)
  | "une" => some (.ofFloats .une)
  | _ => none

/-- A mnemonic with its operands. -/
def apply (left right : Operand) : Mnemonic → Operation
  | .bitwise operation => .binary operation left right
  | .ofInts predicate => .compareInt predicate left right
  | .ofFloats predicate => .compareFloat predicate left right

end Mnemonic

namespace Generator

/-! ## Numbers -/

/-- An arithmetic operation on two values, whether or not the generator is finished. -/
def arithmetic (place : GeneratorId) (operation : Arithmetic) (signed : Bool)
    (left right : Value) : Build Operand := do
  let (left, right) ← coercePair place left right
  match operation.onType? signed left.type with
  | some chosen => emit place (.binary chosen left right)
  | none => Build.reject (.notNumeric operation.text left.type.text)

/-- The sum of two values. -/
def sum (place : GeneratorId) (left right : Value) : Build Value :=
  operandUnlessFinished place (arithmetic place .add true left right)

/-- The difference of two values. -/
def difference (place : GeneratorId) (left right : Value) : Build Value :=
  operandUnlessFinished place (arithmetic place .sub true left right)

/-- The product of two values. -/
def product (place : GeneratorId) (left right : Value) : Build Value :=
  operandUnlessFinished place (arithmetic place .mul true left right)

/-- A quotient or remainder; a divisor that is known to be zero is refused, even by a finished
generator. -/
def divide (place : GeneratorId) (operation : Arithmetic) (dividend divisor : Value)
    (signed : Bool) : Build Value := do
  if divisor.isStaticZero then Build.reject (.constantZero operation.text)
  operandUnlessFinished place (arithmetic place operation signed dividend divisor)

/-- A value with the opposite sign. -/
def negation (place : GeneratorId) (value : Value) : Build Value :=
  operandUnlessFinished place do
    let value ← coerce place value none
    if value.type.isInt then emit place (.binary .sub (.integer value.type 0) value)
    else if value.type.isFloat then emit place (.binary .fsub (.real value.type .zero) value)
    else Build.reject (.notNumeric "neg" value.type.text)

/-- Adds an amount to, or subtracts it from, the value at an address. -/
def change (place : GeneratorId) (name : String) (operation : Arithmetic)
    (pointer amount : Value) : Build Value :=
  operandUnlessFinished place do
    let pointer ← coercePointer place name pointer
    let value ← emit place (.load pointer)
    let changed ← arithmetic place operation true (.operand value) amount
    emit place (.store changed pointer)

/-! ## Bits -/

/-- A shift of an integer by a number of bits. -/
def shift (place : GeneratorId) (operation : BinaryOperation) (value bits : Value) :
    Build Value :=
  operandUnlessFinished place do
    let value ← coerce place value none
    unless value.type.isInt do Build.reject (.notInteger operation.text value.type.text)
    let position ← position place
    let bits ← coerce place bits (some value.type)
    Build.emit position (.binary operation value bits)

/-- A value with all bits turned. -/
def complement (place : GeneratorId) (value : Value) : Build Value :=
  operandUnlessFinished place do
    let position ← position place
    let value ← coerce place value none
    Build.emit position (.binary .xor value (← Operand.filled (-1) value.type))

/-- A bitwise operation or comparison that is given by its mnemonic. -/
def operate (place : GeneratorId) (mnemonic left right : Value) : Build Value :=
  operandUnlessFinished place do
    let name ← Build.nameOf mnemonic
    match name.shown.text?.bind Mnemonic.ofText? with
    | none => Build.reject (.unknownOperation (← Build.plain mnemonic))
    | some operation =>
        let (left, right) ← coercePair place left right
        emit place (operation.apply left right)

/-- Whether an address is null, or is not. -/
def compareNull (place : GeneratorId) (name : String) (predicate : IntPredicate)
    (value : Value) : Build Value :=
  operandUnlessFinished place do
    match value with
    | .operand known =>
        let position ← position place
        Build.emit position (.compareInt predicate known (← Operand.zero known.type))
    | value => Build.reject (.notOperand name value.typeName)

end Generator

end StructuredIR
