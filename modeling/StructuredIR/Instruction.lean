import StructuredIR.Value

/-! # Instructions

The instructions of a block. Each one has a name in its routine, also when it yields no value,
and a type. Branches lead to whatever they were given, which should be a block. The last section
holds the checks that an instruction makes on its operands before it exists. -/

namespace StructuredIR

/-! ## Operations -/

/-- The operations on two operands of one type. -/
inductive BinaryOperation where
  /-- Integer addition. -/
  | add
  /-- Integer subtraction. -/
  | sub
  /-- Integer multiplication. -/
  | mul
  /-- Signed division. -/
  | sdiv
  /-- Unsigned division. -/
  | udiv
  /-- Signed remainder. -/
  | srem
  /-- Unsigned remainder. -/
  | urem
  /-- Floating-point addition. -/
  | fadd
  /-- Floating-point subtraction. -/
  | fsub
  /-- Floating-point multiplication. -/
  | fmul
  /-- Floating-point division. -/
  | fdiv
  /-- Floating-point remainder. -/
  | frem
  /-- Shift to the left. -/
  | shl
  /-- Shift to the right that keeps the sign. -/
  | ashr
  /-- Shift to the right that fills with zeros. -/
  | lshr
  /-- Bitwise conjunction. -/
  | and
  /-- Bitwise disjunction. -/
  | or
  /-- Bitwise exclusive disjunction. -/
  | xor
  deriving DecidableEq, Repr

/-- The mnemonic of a binary operation. -/
def BinaryOperation.text : BinaryOperation → String
  | .add => "add"
  | .sub => "sub"
  | .mul => "mul"
  | .sdiv => "sdiv"
  | .udiv => "udiv"
  | .srem => "srem"
  | .urem => "urem"
  | .fadd => "fadd"
  | .fsub => "fsub"
  | .fmul => "fmul"
  | .fdiv => "fdiv"
  | .frem => "frem"
  | .shl => "shl"
  | .ashr => "ashr"
  | .lshr => "lshr"
  | .and => "and"
  | .or => "or"
  | .xor => "xor"

/-- The comparisons of integers and pointers. -/
inductive IntPredicate where
  /-- Equal. -/
  | eq
  /-- Not equal. -/
  | ne
  /-- Greater without sign. -/
  | ugt
  /-- Greater or equal without sign. -/
  | uge
  /-- Less without sign. -/
  | ult
  /-- Less or equal without sign. -/
  | ule
  /-- Greater with sign. -/
  | sgt
  /-- Greater or equal with sign. -/
  | sge
  /-- Less with sign. -/
  | slt
  /-- Less or equal with sign. -/
  | sle
  deriving DecidableEq, Repr

/-- The mnemonic of an integer comparison. -/
def IntPredicate.text : IntPredicate → String
  | .eq => "eq"
  | .ne => "ne"
  | .ugt => "ugt"
  | .uge => "uge"
  | .ult => "ult"
  | .ule => "ule"
  | .sgt => "sgt"
  | .sge => "sge"
  | .slt => "slt"
  | .sle => "sle"

/-- The comparisons of floating-point numbers; an ordered one is false of what is no number. -/
inductive FloatPredicate where
  /-- Both are numbers. -/
  | ord
  /-- One is no number. -/
  | uno
  /-- Ordered and equal. -/
  | oeq
  /-- Ordered and greater. -/
  | ogt
  /-- Ordered and greater or equal. -/
  | oge
  /-- Ordered and less. -/
  | olt
  /-- Ordered and less or equal. -/
  | ole
  /-- Ordered and not equal. -/
  | one
  /-- Unordered or equal. -/
  | ueq
  /-- Unordered or not equal. -/
  | une
  deriving DecidableEq, Repr

/-- The mnemonic of a floating-point comparison. -/
def FloatPredicate.text : FloatPredicate → String
  | .ord => "ord"
  | .uno => "uno"
  | .oeq => "oeq"
  | .ogt => "ogt"
  | .oge => "oge"
  | .olt => "olt"
  | .ole => "ole"
  | .one => "one"
  | .ueq => "ueq"
  | .une => "une"

/-- The conversions from one type to another. -/
inductive CastOperation where
  /-- To a narrower integer. -/
  | trunc
  /-- To a wider integer, keeping the sign. -/
  | sext
  /-- To a wider integer, filling with zeros. -/
  | zext
  /-- To a less precise floating-point number. -/
  | fptrunc
  /-- To a more precise floating-point number. -/
  | fpext
  /-- To a signed integer. -/
  | fptosi
  /-- To an unsigned integer. -/
  | fptoui
  /-- From a signed integer. -/
  | sitofp
  /-- From an unsigned integer. -/
  | uitofp
  /-- To another reading of the same bits. -/
  | bitcast
  deriving DecidableEq, Repr

/-- The mnemonic of a conversion. -/
def CastOperation.text : CastOperation → String
  | .trunc => "trunc"
  | .sext => "sext"
  | .zext => "zext"
  | .fptrunc => "fptrunc"
  | .fpext => "fpext"
  | .fptosi => "fptosi"
  | .fptoui => "fptoui"
  | .sitofp => "sitofp"
  | .uitofp => "uitofp"
  | .bitcast => "bitcast"

/-- What an instruction does. -/
inductive Operation where
  /-- A binary operation. -/
  | binary (operation : BinaryOperation) (left right : Operand)
  /-- A comparison of integers or pointers. -/
  | compareInt (predicate : IntPredicate) (left right : Operand)
  /-- A comparison of floating-point numbers. -/
  | compareFloat (predicate : FloatPredicate) (left right : Operand)
  /-- A conversion to a type. -/
  | cast (operation : CastOperation) (value : Operand) (target : IRType)
  /-- A stack slot for one value, or for a counted number of them. -/
  | alloca (allocated : IRType) (count : Option Operand)
  /-- The value at an address. -/
  | load (pointer : Operand)
  /-- A value put at an address. -/
  | store (value pointer : Operand)
  /-- The address of a part of what is at an address. -/
  | elementAddress (pointer : Operand) (indices : List Operand)
  /-- An element of a vector. -/
  | extractElement (vector index : Operand)
  /-- A vector with one element replaced. -/
  | insertElement (vector element index : Operand)
  /-- An element of an array or structure. -/
  | extractValue (aggregate : Operand) (index : Int)
  /-- An array or structure with one element replaced. -/
  | insertValue (aggregate element : Operand) (index : Int)
  /-- A call of a function. -/
  | call (callee : Operand) (arguments : List Operand)
  /-- A branch to a block. -/
  | branch (target : Value)
  /-- A branch to one of two blocks. -/
  | branchIf (condition : Operand) (whenTrue whenFalse : Value)
  /-- A return with a value. -/
  | ret (value : Operand)
  /-- A return without a value. -/
  | retVoid
  deriving Inhabited

namespace Operation

/-- Whether an operation ends a block. -/
def isTerminator : Operation → Bool
  | .branch _ | .branchIf .. | .ret _ | .retVoid => true
  | _ => false

/-- The values that an operation may continue at. -/
def targets : Operation → List Value
  | .branch target => [target]
  | .branchIf _ whenTrue whenFalse => [whenTrue, whenFalse]
  | _ => []

/-- The sort of an operation's result. -/
def sort : Operation → ResultSort
  | .binary .. => .binary
  | .compareInt .. => .compareInt
  | .compareFloat .. => .compareFloat
  | .cast .. => .cast
  | .alloca .. => .alloca
  | .load _ => .load
  | .store .. => .store
  | .elementAddress .. => .elementAddress
  | .extractElement .. => .extractElement
  | .insertElement .. => .insertElement
  | .extractValue .. => .extractValue
  | .insertValue .. => .insertValue
  | .call .. => .call
  | .branch _ => .branch
  | .branchIf .. => .branchIf
  | .ret _ | .retVoid => .ret

/-- The mnemonic of an operation. -/
def mnemonic : Operation → String
  | .binary operation .. => operation.text
  | .compareInt .. => "icmp"
  | .compareFloat .. => "fcmp"
  | .cast operation .. => operation.text
  | .alloca .. => "alloca"
  | .load _ => "load"
  | .store .. => "store"
  | .elementAddress .. => "getelementptr"
  | .extractElement .. => "extractelement"
  | .insertElement .. => "insertelement"
  | .extractValue .. => "extractvalue"
  | .insertValue .. => "insertvalue"
  | .call .. => "call"
  | .branch _ | .branchIf .. => "br"
  | .ret _ => "ret"
  | .retVoid => "ret void"

/-- What an operation works on, in order. -/
def operands : Operation → List Value
  | .binary _ left right | .compareInt _ left right | .compareFloat _ left right =>
      [.operand left, .operand right]
  | .cast _ value _ => [.operand value]
  | .alloca _ count => (count.map Value.operand).toList
  | .load pointer => [.operand pointer]
  | .store value pointer => [.operand value, .operand pointer]
  | .elementAddress pointer indices => .operand pointer :: indices.map .operand
  | .extractElement vector index => [.operand vector, .operand index]
  | .insertElement vector element index => [.operand vector, .operand element, .operand index]
  | .extractValue aggregate _ => [.operand aggregate]
  | .insertValue aggregate element _ => [.operand aggregate, .operand element]
  | .call callee arguments => .operand callee :: arguments.map .operand
  | .branch target => [target]
  | .branchIf condition whenTrue whenFalse => [.operand condition, whenTrue, whenFalse]
  | .ret value => [.operand value]
  | .retVoid => []

/-- What an operation works on, as one value: a fixed row for binary operations and for slots of
one value, and else a list. -/
def operandRow (operation : Operation) : Value :=
  match operation with
  | .binary .. | .alloca _ none => .tuple operation.operands
  | _ => .list operation.operands

end Operation

/-- A named operation of a routine. -/
structure Instruction where
  /-- The name of the result. -/
  name : String
  /-- The type of the result. -/
  type : IRType
  /-- What the instruction does. -/
  operation : Operation
  deriving Inhabited

/-- The result of an instruction of a routine. -/
def Instruction.result (instruction : Instruction) (routine : SymbolRef) : Operand :=
  .result routine instruction.name instruction.type instruction.operation.sort

/-! ## Checks -/

namespace Operation

/-- The type of a comparison: a single bit, or one for each element of a vector. -/
def comparisonType (left : Operand) : IRType :=
  match left.type with
  | .vector size _ => .vector size (.int 1)
  | _ => .int 1

/-- The field of a structure at a position that may count from the end. -/
def fieldAt? (fields : List IRType) (index : Int) : Option IRType :=
  if 0 ≤ index then fields[index.toNat]?
  else if 0 ≤ index + fields.length then fields[(index + fields.length).toNat]?
  else none

/-- The type of an element of an array or structure; arrays do not count from the end. -/
def elementType? (aggregate : IRType) (index : Int) : Option IRType :=
  match aggregate with
  | .array size element | .vector size element =>
      if 0 ≤ index ∧ index < size then some element else none
  | .struct fields => fieldAt? fields index
  | _ => none

/-- The number that selects a field in an address computation. -/
def fieldNumber (index : Operand) : Except Fault Int :=
  match index with
  | .integer _ value => .ok value
  | .truth _ value => .ok (if value then 1 else 0)
  | .undefined _ => .error (.notIndex "_Undefined")
  | .real .. => .error (.notIndex "float")
  | .verbatim .. | .sizeOf _ | .globalAs .. => .error (.notIndex "str")
  | .aggregate .. => .error (.notIndex "list")
  | .bytes .. => .error (.notIndex "bytearray")
  | .held _ _ kind => .error (.notIndex kind)
  | .absent _ => .error (.notIndex "NoneType")
  | _ => .error .missingAttribute

/-- One step of an address computation. -/
def stepType (type : IRType) (index : Operand) : Except Fault IRType :=
  match type with
  | .pointer target =>
      if index.type.isInt then .ok target else .error (.addressIndex index.type)
  | .array _ element =>
      if index.type.isInt then .ok element else .error (.addressIndex index.type)
  | .struct fields =>
      if index.type.isInt then do
        match fieldAt? fields (← fieldNumber index) with
        | some field => .ok field
        | none => .error .indexOutOfRange
      else .error (.addressIndex index.type)
  | _ => .error .missingAttribute

/-- The last two types on the way of an address computation. -/
def walkTypes (previous : Option IRType) (type : IRType) :
    List Operand → Except Fault (Option IRType × IRType)
  | [] => .ok (previous, type)
  | index :: indices => do walkTypes (some type) (← stepType type index) indices

/-- The type of an address computation: where a single step leaves a pointer for what is none,
that pointer, and else a pointer to where it ends. -/
def addressType (pointer : Operand) (indices : List Operand) : Except Fault IRType := do
  let (previous, type) ← walkTypes none pointer.type indices
  let pointerTo : Except Fault IRType :=
    match type.address? with
    | some address => .ok address
    | none => .error .failedCheck
  match previous with
  | some previous =>
      if !type.isPointer && previous.isPointer then return previous
      pointerTo
  | none => pointerTo

/-- Checks the arguments of a call against the parameters, counting from `position`. -/
def checkArguments (position : Nat) : List IRType → List Operand → Except Fault Unit
  | [], _ => .ok ()
  | _ :: _, [] => .error .indexOutOfRange
  | expected :: parameters, argument :: arguments =>
      if argument.type = expected then checkArguments (position + 1) parameters arguments
      else .error (.argumentType position expected argument.type)

/-- The type of the result of a call. -/
def callType (callee : Operand) (arguments : List Operand) : Except Fault IRType :=
  if callee.isConstant then .error .missingAttribute
  else
    match callee.type.signature? with
    | some (result, parameters, _) => do
        checkArguments 1 parameters arguments
        return result
    | none => .error (.notFunction callee.type)

/-- The type of an operation's result, if its operands pass the checks of the operation. -/
def check : Operation → Except Fault IRType
  | .binary _ left right =>
      if left.type = right.type then .ok left.type
      else .error (.operandTypes left.type right.type)
  | .compareInt _ left _ | .compareFloat _ left _ => .ok (comparisonType left)
  | .cast _ _ target => .ok target
  | .alloca allocated count =>
      match count, allocated.address? with
      | some count, address? =>
          match count.type, address? with
          | .int _, some address => .ok address
          | _, _ => .error .failedCheck
      | none, some address => .ok address
      | none, none => .error .failedCheck
  | .load pointer =>
      match pointer.type with
      | .pointer target => .ok target
      | _ => .error .failedCheck
  | .store value pointer =>
      match pointer.type with
      | .pointer target =>
          if target = value.type then .ok .void
          else .error (.storeTypes value.type pointer.type)
      | _ => .error .failedCheck
  | .elementAddress pointer indices => addressType pointer indices
  | .extractElement vector index =>
      match vector.type with
      | .vector _ element => if index.type.isInt then .ok element else .error .vectorIndex
      | _ => .error .failedCheck
  | .insertElement vector element index =>
      match vector.type with
      | .vector size expected =>
          if element.type = expected then
            if index.type.isInt then .ok (.vector size expected) else .error .vectorIndex
          else .error (.vectorElement expected element.type)
      | _ => .error .failedCheck
  | .extractValue aggregate index =>
      match elementType? aggregate.type index with
      | some element => .ok element
      | none => .error (.noElement index aggregate.type)
  | .insertValue aggregate element index =>
      match elementType? aggregate.type index with
      | some expected =>
          if element.type = expected then .ok aggregate.type
          else .error (.elementType expected index aggregate.type element.type)
      | none => .error (.noElement index aggregate.type)
  | .call callee arguments => callType callee arguments
  | .branch _ | .branchIf .. | .ret _ | .retVoid => .ok .void

end Operation

end StructuredIR
