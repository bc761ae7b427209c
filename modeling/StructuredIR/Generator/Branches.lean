import StructuredIR.Generator.Memory

/-! # Branches and structured control flow

Blocks, branches, conditionals and loops. The arms of a conditional and the parts of a loop are
built by callbacks on generators of their own; what they leave open is led on to the place where
the paths meet. -/

namespace StructuredIR

namespace Generator

/-- The type of conditions. -/
def conditionType : IRType :=
  .int 1

/-- Where a branch leads to: to what it is given, or to the beginning of a generator. -/
def branchTarget (world : World) : Value → Value
  | .generator place => (world.generator place).start
  | target => target

/-- A block as a value. -/
def blockValue (place : BlockRef) : Value :=
  .operand (.block place)

/-- A branch that finishes the generator, whether or not it is finished already. -/
def branchTo (place : GeneratorId) (target : Value) : Build Unit := do
  let _ ← emit place (.branch (branchTarget (← get) target))
  finish place

/-- A branch that finishes the generator, unless it is finished already. -/
def leadTo (place : GeneratorId) (target : Value) : Build Unit := do
  unless ((← get).generator place).isFinished do branchTo place target

/-- A branch that finishes the generator. -/
def branch (place : GeneratorId) (target : Value) : Build Value :=
  actUnlessFinished place do branchTo place target

/-- A new block at the end of the function and a generator on it, which a callback may use. -/
def openBlock (place : GeneratorId) (name : Value) (body : Option Callback) : Build Value :=
  unlessFinished place do
    let block ← Function.appendBlock ((← get).generator place).function name
    let opened ← childAt place block
    match body with
    | none => pure ()
    | some body => let _ ← body.run [.generator opened]
    return .generator opened

/-- A branch out of the enclosing loop. -/
def leaveLoop (place : GeneratorId) : Build Value :=
  actUnlessFinished place do
    match ((← get).generator place).loopExit with
    | .none => Build.reject (.outsideLoop "brk")
    | exit => branchTo place exit

/-- A branch to the next turn of the enclosing loop. -/
def nextTurn (place : GeneratorId) : Build Value :=
  actUnlessFinished place do
    match ((← get).generator place).loopBlock with
    | .none => Build.reject (.outsideLoop "cont")
    | block => branchTo place block

/-! ## Conditionals -/

/-- Where the paths of a conditional meet, once its first arm is built: what is given, or the
arm's block if it is open and empty, or a new block. Every other arm block is led there. -/
def meetingPlace (arm : GeneratorId) (function : FunctionRef) (given : Value) : Build Value := do
  let isOpen := !given.isGiven && !((← get).generator arm).isFinished
  let own? ← if isOpen then some <$> position arm else pure none
  match own? with
  | some own =>
      if ((← get).block own).instructions.isEmpty then return blockValue own
      let exit := blockValue (← Function.appendNamed function "exit")
      leadTo arm exit
      return exit
  | none =>
      let exit ←
        if given.isGiven then pure given
        else blockValue <$> Function.appendNamed function "exit"
      leadTo arm exit
      return exit

/-- A new generator on a new block, handed to a callback that builds an arm. -/
def buildArm (place : GeneratorId) (function : FunctionRef) (name : String) (body : Callback) :
    Build GeneratorId := do
  let arm ← childAt place (← Function.appendNamed function name)
  let _ ← body.run [.generator arm]
  return arm

/-- The second arm of a conditional, if there is one: where it begins, and the generator that was
used last. -/
def buildElse (place : GeneratorId) (function : FunctionRef) (arm : GeneratorId)
    (body : Option Callback) (exit : Value) : Build (Value × GeneratorId) := do
  match body with
  | none => return (exit, arm)
  | some body =>
      let arm ← buildArm place function "else" body
      leadTo arm exit
      finish arm
      return (((← get).generator arm).start, arm)

/-- A conditional. The generator goes on where the paths meet, or is finished if that place was
given. -/
def conditional (place : GeneratorId) (condition : Value) (thenBody elseBody : Option Callback)
    (given : Value) : Build Value :=
  actUnlessFinished place do
    match thenBody with
    | none => Build.reject .missingThen
    | some thenBody =>
        let function := ((← get).generator place).function
        let condition ← coerce place condition (some conditionType)
        let arm ← buildArm place function "then" thenBody
        let exit ← meetingPlace arm function given
        finish arm
        let whenTrue := ((← get).generator arm).start
        let (whenFalse, arm) ← buildElse place function arm elseBody exit
        -- The callbacks may have moved the generator: the branch ends the block it is at by now.
        unless given.isGiven do
          Function.moveAfter function exit ((← get).generator arm).block
        let _ ← emit place (.branchIf condition whenTrue whenFalse)
        if given.isGiven then finish place else moveTo place exit

/-! ## Loops -/

/-- The parts of a loop. -/
structure LoopParts where
  /-- Builds the condition under which the loop goes on. -/
  compare : Option Callback
  /-- Builds what is done after each turn. -/
  increment : Option Callback
  /-- Builds what is done in each turn. -/
  body : Option Callback

/-- The blocks of a loop. -/
structure LoopBlocks where
  /-- Where each turn begins. -/
  header : BlockRef
  /-- Where the body begins. -/
  body : Option BlockRef
  /-- Where the increment begins. -/
  increment : Option BlockRef
  /-- Where the loop ends. -/
  exit : Value

/-- Where a turn goes on after the body. -/
def LoopBlocks.continue (blocks : LoopBlocks) : BlockRef :=
  blocks.increment.getD blocks.header

/-- Stack slots that hold some values. -/
def createSlots (place : GeneratorId) : List Value → Build (List Operand)
  | [] => pure []
  | value :: values => do
      let value ← coerce place value none
      let slot ← emit place (.alloca value.type none)
      let _ ← emit place (.store value slot)
      return slot :: (← createSlots place values)

/-- Where the turns of a loop begin: the current block if it is empty and not the entry of the
function, and else a new block that is branched to. -/
def loopHeader (place : GeneratorId) (function : FunctionRef) : Build BlockRef := do
  let current ← position place
  let isEmpty := ((← get).block current).instructions.isEmpty
  if isEmpty && ((← get).function function).entry != some current then return current
  let header ← Function.appendNamed function "loop"
  let _ ← emit place (.branch (blockValue header))
  return header

/-- The block of the body of a loop: one of its own if a condition comes before it. -/
def bodyBlock (function : FunctionRef) (header : BlockRef) (parts : LoopParts) :
    Build (Option BlockRef) :=
  match parts.body, parts.compare with
  | none, _ => return none
  | some _, none => return some header
  | some _, some _ => some <$> Function.appendNamed function "body"

/-- The block of the increment of a loop: one of its own if another part comes before it. -/
def incrementBlock (function : FunctionRef) (header : BlockRef) (parts : LoopParts) :
    Build (Option BlockRef) :=
  match parts.increment with
  | none => return none
  | some _ =>
      if parts.body.isNone && parts.compare.isNone then return some header
      else some <$> Function.appendNamed function "increment"

/-- Where a loop ends: at what is given, or at a new block. -/
def loopEnd (function : FunctionRef) (given : Value) : Build Value :=
  if given.isGiven then return given
  else blockValue <$> Function.appendNamed function "break"

/-- The blocks of a loop. -/
def loopBlocks (function : FunctionRef) (header : BlockRef) (parts : LoopParts)
    (given : Value) : Build LoopBlocks := do
  let body ← bodyBlock function header parts
  let increment ← incrementBlock function header parts
  let exit ← loopEnd function given
  return ⟨header, body, increment, exit⟩

/-- A generator for a part of a loop. -/
def loopPart (place : GeneratorId) (block : BlockRef) (blocks : LoopBlocks) :
    Build GeneratorId := do
  let part ← childAt place block
  modify (·.changeGenerator part fun generator =>
    { generator with
      loopBlock := blockValue blocks.continue
      loopExit := blocks.exit })
  return part

/-- As many values as a callback takes besides its generator. -/
def trimmed {Item : Type} (callback : Callback) (values : List Item) : List Item :=
  match callback.arity? with
  | none => values
  | some arity => values.take (arity - 1)

/-- The values that some slots hold. -/
def loadSlots (part : GeneratorId) : List Operand → Build (List Value)
  | [] => pure []
  | slot :: slots => do return (← load part (.operand slot)) :: (← loadSlots part slots)

/-- The body of a loop, if there is one, led on to the increment or the next turn. -/
def buildBody (place : GeneratorId) (blocks : LoopBlocks) (slots : List Operand) :
    Option Callback → Option BlockRef → Build Unit
  | some body, some block => do
      let part ← loopPart place block blocks
      let values ← loadSlots part (trimmed body slots)
      let _ ← body.run (.generator part :: values)
      leadTo part (blockValue blocks.continue)
      finish part
  | _, _ => pure ()

/-- The branch of a condition to the body and to the exit of its loop. -/
def branchOn (part : GeneratorId) (blocks : LoopBlocks) (result : Value) : Build Unit := do
  unless ((← get).generator part).isFinished do
    let condition ← coerce part result (some conditionType)
    let _ ← emit part
      (.branchIf condition (blockValue (blocks.body.getD blocks.continue)) blocks.exit)
    finish part

/-- The condition of a loop, if there is one, with a branch to the body and to the exit. -/
def buildCompare (place : GeneratorId) (blocks : LoopBlocks) (slots : List Operand) :
    Option Callback → Build Unit
  | some compare => do
      let part ← loopPart place blocks.header blocks
      let values ← loadSlots part (trimmed compare slots)
      let result ← compare.run (.generator part :: values)
      branchOn part blocks result
      finish part
  | none => pure ()

/-- The increment of a loop, if there is one, led back to the header. -/
def buildIncrement (place : GeneratorId) (blocks : LoopBlocks) (slots : List Operand) :
    Option Callback → Option BlockRef → Build Unit
  | some increment, some block => do
      let part ← loopPart place block blocks
      let _ ← increment.run (.generator part :: (trimmed increment slots).map Value.operand)
      leadTo part (blockValue blocks.header)
      finish part
  | _, _ => pure ()

/-- All parts of a loop. The body is built first, although it runs after the condition. -/
def buildParts (place : GeneratorId) (parts : LoopParts) (blocks : LoopBlocks)
    (slots : List Operand) : Build Unit := do
  buildBody place blocks slots parts.body blocks.body
  buildCompare place blocks slots parts.compare
  buildIncrement place blocks slots parts.increment blocks.increment

/-- Puts the exit of a loop at the end of the function. -/
def moveToEnd (function : FunctionRef) (exit : Value) : Build Unit := do
  let world ← get
  match (world.blocks (world.functionSymbol function)).getLast? with
  | some last => Function.moveAfter function exit (blockValue last)
  | none => throw .indexOutOfRange

/-- What a loop gives: its only slot, or all of them. -/
def slotsValue : List Operand → Value
  | [slot] => .operand slot
  | slots => .list (slots.map .operand)

/-- Whether a loop has no parts at all. -/
def LoopParts.isEmpty (parts : LoopParts) : Bool :=
  parts.body.isNone && parts.compare.isNone && parts.increment.isNone

/-- A loop with the given values in its slots. The generator goes on at the exit, or is finished
if the exit was given. -/
def loop (place : GeneratorId) (initial : Value) (parts : LoopParts) (given : Value) :
    Build Value :=
  unlessFinished place do
    if parts.isEmpty then Build.reject .emptyLoop
    let function := ((← get).generator place).function
    let slots ← createSlots place ((← get).loopValues initial)
    let header ← loopHeader place function
    let blocks ← loopBlocks function header parts given
    buildParts place parts blocks slots
    if given.isGiven then finish place
    else
      -- The callbacks may have added blocks behind the exit.
      moveToEnd function blocks.exit
      moveTo place blocks.exit
    return slotsValue slots

end Generator

end StructuredIR
