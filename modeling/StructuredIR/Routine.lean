import StructuredIR.Instruction
import StructuredIR.Names

/-! # Routines

A routine is a function of a module: its signature, its named parameters, and its blocks in
order. A routine without blocks is a declaration. Blocks and instructions take their names from
one supply that also names the parameters. A block that is taken out of the order is still
there. -/

namespace StructuredIR

/-- A named row of instructions. -/
structure Block where
  /-- The name of the block in its routine. -/
  label : Value
  /-- The instructions in order. -/
  instructions : List Instruction
  /-- The text of the block by itself, once it has been written. -/
  printed : Option String
  deriving Inhabited

namespace Block

/-- Whether an instruction of the block ends it. -/
def isTerminated (block : Block) : Bool :=
  block.instructions.any fun instruction => instruction.operation.isTerminator

/-- The block with an instruction at its end. -/
def append (block : Block) (instruction : Instruction) : Block :=
  { block with instructions := block.instructions ++ [instruction] }

/-- The block with an instruction at its start. -/
def prepend (block : Block) (instruction : Instruction) : Block :=
  { block with instructions := instruction :: block.instructions }

end Block

/-- A function of a module. -/
structure Routine where
  /-- The type of the result. -/
  result : IRType
  /-- The names and types of the parameters. -/
  parameters : List (String × IRType)
  /-- Whether further arguments are taken. -/
  isVariadic : Bool
  /-- Whether the routine is hidden from other modules. -/
  isPrivate : Bool
  /-- All blocks in the order of creation. -/
  blocks : List Block
  /-- The places of the blocks that are in order. -/
  order : List Nat
  /-- The names in use. -/
  names : Names
  deriving Inhabited

namespace Routine

/-- Named parameters of the given types, and the names left. -/
def nameParameters (names : Names) : List IRType → List (String × IRType) × Names
  | [] => ([], names)
  | type :: types =>
      let (name, names) := names.fresh ""
      let (parameters, names) := nameParameters names types
      ((name, type) :: parameters, names)

/-- A routine without blocks; after the parameters one name goes to the result. -/
def declare (result : IRType) (parameters : List IRType) (isVariadic : Bool) : Routine :=
  let (parameters, names) := nameParameters .initial parameters
  { result, parameters, isVariadic, isPrivate := false, blocks := [], order := [],
    names := (names.fresh "").2 }

/-- The types of the parameters. -/
def parameterTypes (routine : Routine) : List IRType :=
  routine.parameters.map Prod.snd

/-- The function type of a routine. -/
def signature (routine : Routine) : IRType :=
  .function routine.result routine.parameterTypes routine.isVariadic

/-- The routine with a block changed. -/
def changeBlock (routine : Routine) (place : Nat) (update : Block → Block) : Routine :=
  { routine with blocks := routine.blocks.modify place update }

/-- The routine with a new empty block at its end. The block is labelled by the base name of a key
if that is free, and else by the text of the base name with a number. -/
def appendBlock (routine : Routine) (base : Value) (key : Key) (text : String) : Routine :=
  let (name, names) := routine.names.take key text
  { routine with
    names
    blocks := routine.blocks ++ [⟨(name.map Value.text).getD base, [], none⟩]
    order := routine.order ++ [routine.blocks.length] }

/-- Some places with `moved` put behind `anchor`. -/
def insertAfter (moved anchor : Nat) : List Nat → List Nat
  | [] => []
  | place :: places =>
      if place = anchor then place :: moved :: places
      else place :: insertAfter moved anchor places

end Routine

end StructuredIR
