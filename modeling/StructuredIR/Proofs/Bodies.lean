import StructuredIR.Generator.Returns
import StructuredIR.Proofs.Rows

/-! # Function bodies

A function with a body is known by its record in a library, by the routine that the record stands
for, by the block at which the body begins and by what it yields. This file has the views of a world
that belong to one function body: its return block, its slot and its blocks. -/

namespace StructuredIR

/-- A function with a body. -/
structure FunctionBody where
  /-- The function. -/
  reference : FunctionRef
  /-- The routine that the function stands for. -/
  symbol : SymbolRef
  /-- The block at which the body of the function begins. -/
  entry : BlockRef
  /-- What the function yields. -/
  result : IRType

namespace FunctionBody

variable (body : FunctionBody)

/-- The block of a function that shared returns lead to. -/
def exit? (world : World) : Option BlockRef :=
  (world.function body.reference).exit

/-- The address of a function that holds the value to return. -/
def slot? (world : World) : Option Operand :=
  (world.function body.reference).slot

/-- How many blocks the routine of the function has. -/
abbrev blockCount (world : World) : Nat :=
  world.blockCount body.symbol

variable {body}

/-- What the routine behind the function yields. -/
theorem result_routineOf {world : World} (stands : world.functionSymbol body.reference = body.symbol)
    (result : (world.routine? body.symbol).map Routine.result = some body.result) :
    (world.routineOf body.reference).result = body.result := by
  obtain ⟨routine, known, yields⟩ := Option.map_eq_some_iff.mp result
  rw [World.routineOf, stands, World.routine, known]
  exact yields

/-- Whether a function yields nothing is known to its generators. -/
theorem isVoid_run {world : World} {place : GeneratorId}
    (stands : world.functionSymbol body.reference = body.symbol)
    (result : (world.routine? body.symbol).map Routine.result = some body.result)
    (function : (world.generator place).function = body.reference) :
    Generator.isVoid place world = .ok (decide (body.result = .void)) world := by
  rw [← result_routineOf stands result, ← function]
  rfl

end FunctionBody

end StructuredIR
