import StructuredIR.Generator.Branches

/-! # Returns

Shared returns put the value into the slot of the function and lead to its only return block;
direct ones return in place. -/

namespace StructuredIR

namespace Generator

/-- Whether the function of a generator yields nothing. -/
def isVoid (place : GeneratorId) : Build Bool := do
  let world ← get
  return (world.routineOf (world.generator place).function).result = .void

/-- Puts a value, if there is one, into the slot of a function that yields values. -/
def storeResult (place : GeneratorId) (value : Value) : Build Unit := do
  if value matches .none then return
  if ← isVoid place then return
  let world ← get
  let function := (world.generator place).function
  let position ← position place
  let value ← coerce place value (some (world.routineOf function).result)
  let slot ← Build.present ((← get).function function).slot
  let _ ← Build.emit position (.store value slot)

/-- Returns through the shared return block; a `void` function returns in place. -/
def returnShared (place : GeneratorId) (value : Value) : Build Value :=
  actUnlessFinished place do
    if ← isVoid place then
      let _ ← emit place .retVoid
    else
      let exit ← Function.setUpReturn ((← get).generator place).function
      storeResult place value
      let _ ← emit place (.branch (blockValue exit))
    finish place

/-- Returns through the shared return block if a condition holds. Else control goes to the
continuation, or to a new block at which the generator goes on. -/
def returnIf (place : GeneratorId) (condition value continuation : Value) : Build Value :=
  actUnlessFinished place do
    let function := ((← get).generator place).function
    let exit ← Function.setUpReturn function
    let condition ← coerce place condition (some conditionType)
    storeResult place value
    let target ←
      if continuation.isGiven then pure continuation
      else blockValue <$> Function.appendNamed function "block"
    let _ ← emit place (.branchIf condition (blockValue exit) target)
    if continuation.isGiven then finish place else moveTo place target

/-- Returns in place. -/
def returnDirectly (place : GeneratorId) (value : Value) : Build Value :=
  actUnlessFinished place do
    if ← isVoid place then
      let _ ← emit place .retVoid
    else
      if value matches .none then Build.reject (.missingResult "sret")
      let world ← get
      let position ← position place
      let value ← coerce place value
        (some (world.routineOf (world.generator place).function).result)
      let _ ← Build.emit position (.ret value)
    finish place

/-- Stores the value to return without leaving. -/
def presetReturn (place : GeneratorId) (value : Value) : Build Value :=
  actUnlessFinished place do
    unless ← isVoid place do
      if value matches .none then Build.reject (.missingResult "pret")
      let _ ← Function.setUpReturn ((← get).generator place).function
      storeResult place value

end Generator

end StructuredIR
