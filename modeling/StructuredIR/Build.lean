import StructuredIR.Name
import StructuredIR.World

/-! # Building

Operations change a world step by step and may fail; what was done before a failure stays. This
file has the steps that all operations are made of: names, blocks, instructions, symbols, pooled
strings and warnings. -/

namespace StructuredIR

/-- A step that changes the world and may fail, keeping what it did before. -/
abbrev Build := EStateM Fault World

/-- A check that looks at no world is a step that changes none. -/
instance : MonadLift (Except Fault) Build where
  monadLift
    | .ok value => pure value
    | .error fault => throw fault

/-- What an operation calls to have a part of its work done. -/
structure Callback where
  /-- The number of arguments that it takes, where it is fixed and can be seen. -/
  arity? : Option Nat
  /-- The call with its arguments. -/
  run : List Value → Build Value

namespace Build

/-- Fails with a catalogued complaint. -/
def reject {Result : Type} (cause : Cause) : Build Result :=
  throw (.rejected cause)

/-- What is there, or else a missing attribute. -/
def present {Result : Type} : Option Result → Build Result
  | some value => pure value
  | none => throw .missingAttribute

/-- A number that tells a value from others. -/
def identity : Build Nat := do
  let number := (← get).identities
  modify fun world => { world with identities := number + 1 }
  return number

/-- A constant of a type made from a value that is held for its text. -/
def hold (type : IRType) (content : Value) : Build Operand := do
  let place := (← get).held.length
  modify fun world => { world with held := world.held ++ [⟨content, none⟩] }
  return .held type place content.className

/-! ## Routines -/

/-- A fresh name of a routine. -/
def freshName (symbol : SymbolRef) (base : String) : Build String := do
  let (name, names) := ((← get).routine symbol).names.fresh base
  modify (·.changeRoutine symbol fun routine => { routine with names })
  return name

/-- A new empty block at the end of a routine, with the text by which its name is numbered if it is
taken. -/
def appendBlock (symbol : SymbolRef) (base : Name) (text : String) : Build BlockRef := do
  let place := ((← get).routine symbol).blocks.length
  modify (·.changeRoutine symbol (·.appendBlock base.shown base.key text))
  return ⟨symbol, place⟩

/-- A new empty block at the end of a routine, named by a text. -/
def appendNamed (symbol : SymbolRef) (base : String) : Build BlockRef :=
  appendBlock symbol (.ofText base) base

/-- The instruction of an operation that passes its checks. Instructions that end a block are
refused, after they have taken a name, in a block that has ended. -/
def instruction (place : BlockRef) (base : String) (operation : Operation) :
    Build Instruction := do
  -- The checks come first: an operation that fails them takes no name.
  let type ← operation.check
  let name ← freshName place.routine base
  if operation.isTerminator && (← get).isTerminated place then throw .failedCheck
  return ⟨name, type, operation⟩

/-- Adds an operation at the end of a block and gives its result. -/
def emit (place : BlockRef) (operation : Operation) : Build Operand := do
  let instruction ← instruction place "" operation
  modify (·.changeBlock place (·.append instruction))
  return instruction.result place.routine

/-- Adds an operation with a name at the start of a block and gives its result. -/
def emitFirst (place : BlockRef) (base : String) (operation : Operation) : Build Operand := do
  let instruction ← instruction place base operation
  modify (·.changeBlock place (·.prepend instruction))
  return instruction.result place.routine

/-! ## Modules -/

/-- A new symbol in the module of a library. -/
def declareSymbol (place : LibraryId) (name : Name) (content : Content) : Build SymbolRef := do
  let symbol := ((← get).library place).module.symbols.length
  let module ← ((← get).library place).module.declare name.key ⟨name.shown, content⟩
  modify (·.changeModule place fun _ => module)
  return ⟨place, symbol⟩

/-- The routine of a name in the module of a library, declared if it is not there. -/
def ensureRoutine (place : LibraryId) (name : Name) (declared : Routine) : Build SymbolRef := do
  match ((← get).library place).module.routineNamed? name.key with
  | some symbol => return ⟨place, symbol⟩
  | none => declareSymbol place name (.routine declared)

/-- The global of a name in the module of a library, declared if it is not there. -/
def ensureGlobal (place : LibraryId) (name : Name) (valueType : IRType) : Build SymbolRef := do
  match ((← get).library place).module.globalNamed? name.key with
  | some symbol => return ⟨place, symbol⟩
  | none =>
      if valueType = .void then throw .failedCheck
      declareSymbol place name (.global (.external valueType))

/-- The pooled string of a library that holds a text. -/
def internString (place : LibraryId) (text : Phrase) : Build SymbolRef := do
  let library := (← get).library place
  let (symbol, pool, module) := library.pool.intern library.module text
  modify (·.changeLibrary place fun library => { library with pool, module })
  return ⟨place, symbol⟩

/-! ## Warnings -/

/-- A report with one more warning, which is also written to the error stream if `echo` counts as
true. -/
def note (report : Report) (echo : Value) (code message : String) : Build Report := do
  let diagnostic := report.warning code message
  if (← get).isTruthy echo then modify (·.write ((report.showing [diagnostic]).printed false))
  return report.record diagnostic

/-- Records a warning of a library with a code and a message. -/
def warnOf (place : LibraryId) (code message : String) : Build Unit := do
  let library := (← get).library place
  let report ← note library.report library.echo code message
  modify (·.changeLibrary place fun library => { library with report })

/-- Records a catalogued warning of a library. -/
def warn (place : LibraryId) (cause : Cause) : Build Unit :=
  warnOf place cause.code.text cause.message

end Build

end StructuredIR
