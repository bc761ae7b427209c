import StructuredIR.Generator.Casts

/-! # Memory

Slots on the stack, memory from the heap, loads and stores, and the addresses of parts of a
value. -/

namespace StructuredIR

namespace Generator

/-- The type of addresses that the heap deals in. -/
def heapPointer : IRType :=
  .pointer (.int 8)

/-- A stack slot for a value of a type, or for a number of them. -/
def allocate (place : GeneratorId) (type size : Value) : Build Value :=
  operandUnlessFinished place do
    let target ← type.asType "alloca"
    let position ← position place
    match size with
    | .none => Build.emit position (.alloca target none)
    | size => Build.emit position (.alloca target (some (← coerce place size none)))

/-- A function of the heap in the module of a library, declared if its name is free. -/
def heapFunction (library : LibraryId) (name : String) (parameter result : IRType) :
    Build Operand := do
  let name := Name.ofText name
  match ((← get).library library).module.globalNamed? name.key with
  | some symbol => return (← get).globalOperand ⟨library, symbol⟩
  | none =>
      let symbol ← Build.ensureRoutine library name (.declare result [parameter] false)
      return (← get).routineOperand symbol

/-- The number of bytes of a type; there has to be an address of its values. -/
def bytesOf (type : IRType) : Except Fault Operand :=
  match type.address? with
  | some _ => .ok (.sizeOf type)
  | none => .error .failedCheck

/-- The number of bytes of a number of values of a type. -/
def bytesOfMany (place : GeneratorId) (type : IRType) (size : Value) : Build Operand := do
  let bytes ← bytesOf type
  match size with
  | .none => return bytes
  | .operand size =>
      let count ← castOperand place size Operand.wordType
      emit place (.binary .mul bytes count)
  | size =>
      let count ← coerce place size (some Operand.wordType)
      emit place (.binary .mul bytes count)

/-- Memory of the heap for a value of a type, or for a number of them. -/
def allocateOnHeap (place : GeneratorId) (type size : Value) : Build Value :=
  operandUnlessFinished place do
    let target ← type.asType "malloc"
    let bytes ← bytesOfMany place target size
    let position ← position place
    let allocator ← heapFunction (← library place) "malloc" Operand.wordType heapPointer
    let raw ← Build.emit position (.call allocator [bytes])
    convertAt position .bitcast raw (.pointer target)

/-- Gives memory back to the heap. -/
def release (place : GeneratorId) (pointer : Value) : Build Value :=
  operandUnlessFinished place do
    let pointer ← coercePointer place "free" pointer
    let pointer ← convert place .bitcast pointer heapPointer
    let position ← position place
    let releaser ← heapFunction (← library place) "free" heapPointer .void
    Build.emit position (.call releaser [pointer])

/-- The value at an address, whether or not the generator is finished. -/
def loadOperand (place : GeneratorId) (pointer : Value) : Build Operand := do
  let position ← position place
  Build.emit position (.load (← coercePointer place "load" pointer))

/-- The value at an address. -/
def load (place : GeneratorId) (pointer : Value) : Build Value :=
  operandUnlessFinished place (loadOperand place pointer)

/-- Puts a value at an address, whether or not the generator is finished. -/
def storeOperand (place : GeneratorId) (value pointer : Value) : Build Operand := do
  let pointer ← coercePointer place "store" pointer
  let position ← position place
  match pointer.type with
  | .pointer target =>
      let value ← coerce place value (some target)
      Build.emit position (.store value pointer)
  | _ => throw .failedCheck

/-- Puts a value at an address. -/
def store (place : GeneratorId) (value pointer : Value) : Build Value :=
  operandUnlessFinished place (storeOperand place value pointer)

/-- The operands of indices, 32 bits wide unless they have a type. -/
def coerceIndices (place : GeneratorId) : List Value → Build (List Operand)
  | [] => pure []
  | index :: indices => do
      return (← coerce place index (some (.int 32))) :: (← coerceIndices place indices)

/-- The address of a part of what is at an address, whether or not the generator is finished. -/
def elementAddress (place : GeneratorId) (pointer : Value) (indices : List Value) :
    Build Operand := do
  let pointer ← coercePointer place "gep" pointer
  let position ← position place
  let indices ← coerceIndices place ((← get).flatten indices)
  Build.emit position (.elementAddress pointer indices)

/-- The address of a part of what is at an address. -/
def address (place : GeneratorId) (pointer : Value) (indices : List Value) : Build Value :=
  operandUnlessFinished place (elementAddress place pointer indices)

/-- The value of a part of what is at an address. -/
def loadElement (place : GeneratorId) (pointer : Value) (indices : List Value) : Build Value :=
  operandUnlessFinished place do
    let element ← elementAddress place pointer indices
    loadOperand place (.operand element)

/-- Puts the last of some values at the address that the others lead to. -/
def storeElement (place : GeneratorId) (pointer : Value) (indicesAndValue : List Value) :
    Build Value :=
  operandUnlessFinished place do
    match indicesAndValue.getLast? with
    | none => throw .missingStoredValue
    | some value =>
        let element ← elementAddress place pointer indicesAndValue.dropLast
        storeOperand place value (.operand element)

end Generator

end StructuredIR
