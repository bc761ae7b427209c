import StructuredIR.Coercion
import StructuredIR.Function.Basic

/-! # Generators

A generator adds instructions at the end of the block that it is positioned at. Once it is
finished, its operations do nothing and give nothing. -/

namespace StructuredIR

namespace Generator

/-- A new generator for a function on a block. -/
def add (generator : Generator) : Build GeneratorId := do
  let place := (← get).generators.length
  modify fun world => { world with generators := world.generators ++ [generator] }
  return place

/-- The entry of a function as a value, if it has one. -/
def entryValue (function : Function) : Value :=
  match function.entry with
  | some entry => .operand (.block entry)
  | none => .none

/-- A new generator at the entry of a function. -/
def atEntry (function : FunctionRef) : Build GeneratorId := do
  let entry := entryValue ((← get).function function)
  add ⟨function, entry, entry, .none, .none, false⟩

/-- A new generator for the same function on a block, or at the entry if there is none. The loop
around the generator is around the new one too. Only what counts as false may be no block. -/
def child (place : GeneratorId) (block : Value) : Build GeneratorId := do
  let world ← get
  let parent := world.generator place
  let start := if block.isGiven then block else entryValue (world.function parent.function)
  if start.block?.isNone && world.isTruthy start then throw .missingAttribute
  add ⟨parent.function, start, start, parent.loopBlock, parent.loopExit, false⟩

/-- A new generator for the same function on a block of it. -/
def childAt (place : GeneratorId) (block : BlockRef) : Build GeneratorId :=
  child place (.operand (.block block))

/-- Marks a generator as finished. -/
def finish (place : GeneratorId) : Build Unit :=
  modify (·.changeGenerator place fun generator => { generator with isFinished := true })

/-- Lets a generator go on at a block. -/
def moveTo (place : GeneratorId) (block : Value) : Build Unit :=
  modify (·.changeGenerator place fun generator => { generator with block })

/-- The block at whose end a generator adds instructions. -/
def position (place : GeneratorId) : Build BlockRef := do
  Build.present ((← get).generator place).block.block?

/-- Adds an operation where a generator is. -/
def emit (place : GeneratorId) (operation : Operation) : Build Operand := do
  Build.emit (← position place) operation

/-- Does something unless the generator is finished. -/
def unlessFinished (place : GeneratorId) (action : Build Value) : Build Value := do
  if ((← get).generator place).isFinished then return .none
  action

/-- Gives an operand unless the generator is finished. -/
def operandUnlessFinished (place : GeneratorId) (action : Build Operand) : Build Value :=
  unlessFinished place do return .operand (← action)

/-- Does something that gives nothing, unless the generator is finished. -/
def actUnlessFinished (place : GeneratorId) (action : Build Unit) : Build Value :=
  unlessFinished place do
    action
    return .none

/-- The operations of generators that look at what they are given even once the generator is
finished. -/
def attentive : List String := [
  "finish", "position_at_end", "child", "convert", "global_", "add", "sub", "mul", "div", "rem",
  "shl", "ashr", "lshr", "trunc", "sext", "zext"]

/-- Whether an operation of generators does nothing at all, whatever it is given, once the
generator is finished. -/
def isIdle (name : String) : Bool :=
  !attentive.contains name

/-- The library whose names and strings a generator uses. -/
def library (place : GeneratorId) : Build LibraryId := do
  return ((← get).generator place).function.owner

/-- The operand of a value, of the wanted type if there is one. -/
def coerce (place : GeneratorId) (value : Value) (wanted : Option IRType) : Build Operand := do
  Coercion.coerce (some (← library place)) value wanted

/-- The operands of some values of no wanted type. -/
def coerceEach (place : GeneratorId) : List Value → Build (List Operand)
  | [] => pure []
  | value :: values => do
      return (← coerce place value none) :: (← coerceEach place values)

/-- The operand of a value that has to be a pointer. -/
def coercePointer (place : GeneratorId) (operation : String) (value : Value) :
    Build Operand := do
  let pointer ← coerce place value none
  if pointer.type.isPointer then return pointer
  Build.reject (.notPointer operation pointer.type.text)

/-- The operands of two values: a value that is no operand takes the type of one that is. -/
def coercePair (place : GeneratorId) (left right : Value) : Build (Operand × Operand) := do
  match left, right with
  | .operand left, right => return (left, ← coerce place right (some left.type))
  | left, .operand right => return (← coerce place left (some right.type), right)
  | left, right =>
      let left ← coerce place left none
      return (left, ← coerce place right (some left.type))

end Generator

end StructuredIR
