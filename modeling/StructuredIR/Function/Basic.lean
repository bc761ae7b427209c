import StructuredIR.Equality
import StructuredIR.Signature

/-! # Functions

A function of a library stands for a routine of the library's module. A defined one has an entry
block; its visibility is the linkage of the routine. The module of a library that uses a function
of another library gets a declaration of it. -/

namespace StructuredIR

namespace Function

/-- The linkage of the routine of a symbol set by a visibility. -/
def link (symbol : SymbolRef) (visibility : Value) : Build Unit :=
  modify (·.changeRoutine symbol fun routine =>
    { routine with isPrivate := visibility.isPrivate })

/-- A function in the module of a library, with its name in the library and that of its routine. A
routine that has the name already is taken over, and a definition adds an entry block to it. A
declaration stays public. -/
def create (place : LibraryId) (name : Value) (signature : Signature) (result : IRType)
    (symbolName : Name) (visibility : Visibility) (isDeclaration : Bool) : Build Function := do
  let symbol ← Build.ensureRoutine place symbolName
    (.declare result signature.parameters signature.isVariadic)
  if isDeclaration then
    link symbol (.visibility .isPublic)
    return ⟨name, symbol.place, none, none, none, .visibility .isPublic⟩
  let entry ← Build.appendNamed symbol "entry"
  link symbol (.visibility visibility)
  return ⟨name, symbol.place, some entry, none, none, .visibility visibility⟩

/-- Gives a function that is there another visibility, unless a declaration is to be private; tells
whether the visibility was given. -/
def relink (reference : FunctionRef) (visibility : Value) : Build Bool := do
  match ((← get).library reference.owner).functions[reference.place]? with
  | none => return false
  | some (_, function) =>
      if visibility.isPrivate && function.isDeclaration then return false
      modify (·.changeFunction reference fun function => { function with visibility })
      link ⟨reference.owner, function.symbol⟩ visibility
      return true

/-- The routine of a function in the module of a library, declared there if it is not. -/
def callee (place : LibraryId) (reference : FunctionRef) : Build SymbolRef := do
  let world ← get
  let symbol := world.functionSymbol reference
  if symbol.owner = place then return symbol
  let routine := world.routine symbol
  let name ← Build.nameOf (world.symbolName symbol)
  Build.ensureRoutine place name
    (.declare routine.result routine.parameterTypes routine.isVariadic)

/-! ## Blocks -/

/-- A new empty block at the end of a function, named by a text. -/
def appendNamed (reference : FunctionRef) (base : String) : Build BlockRef := do
  Build.appendNamed ((← get).functionSymbol reference) base

/-- A new empty block at the end of a function. -/
def appendBlock (reference : FunctionRef) (base : Value) : Build BlockRef := do
  let name ← Build.nameOf base
  let symbol := (← get).functionSymbol reference
  -- Only a name that is taken is written with a number.
  let text ←
    if ((← get).routine symbol).names.taken.contains name.key then Build.plain base else pure ""
  Build.appendBlock symbol name text

/-- Whether there is only one value equal to a piece of plain data or a type: small numbers, single
characters and the types of common numbers are kept once and for all. -/
def isKeptOnce : Value → Bool
  | .none | .truth _ | .variadicMark | .visibility _ | .policy _ | .symbolKind _ => true
  | .integer value => -5 ≤ value && value ≤ 256
  | .text content => content.length ≤ 1 && content.toList.all fun char => char.toNat < 256
  | .bytes content isMutable => content.length ≤ 1 && !isMutable
  | .tuple items => items.isEmpty
  | .type (.int width) => width ≤ 128
  | .type known => known.isFloat
  | _ => false

/-- Whether two values are one and the same thing. -/
def isSame (left right : Value) : Build Bool := do
  let equal : Build Bool := do
    return (← Build.keyOf left) == (← Build.keyOf right)
  match left, right with
  | .operand left, .operand right =>
      if left.isConstant || right.isConstant then return false
      return (← Build.operandKey left) = (← Build.operandKey right)
  | .function _, .function _ | .fragment _, .fragment _ | .generator _, .generator _
  | .library _, .library _ | .module _, .module _ | .report _, .report _
  | .registry _, .registry _ | .program .., .program .. | .table _, .table _
  | .object _, .object _ | .callback _, .callback _ => equal
  | left, right =>
      if isKeptOnce left && isKeptOnce right && left.className == right.className then equal
      else return false

/-- The place of a block in the order of a routine. -/
def placeInOrder? (routine : Routine) (symbol : SymbolRef) (value : Value) : Option Nat :=
  match value.block? with
  | some block =>
      if block.routine = symbol ∧ routine.order.contains block.place then some block.place
      else none
  | none => none

/-- Puts a block of a function right behind another one. The block is taken out before its new
place is looked for. -/
def moveAfter (reference : FunctionRef) (moved anchor : Value) : Build Unit := do
  if ← isSame moved anchor then return
  let symbol := (← get).functionSymbol reference
  let routine := (← get).routine symbol
  match placeInOrder? routine symbol moved with
  | none => throw .blockNotHere
  | some place =>
      let others := { routine with order := routine.order.erase place }
      modify (·.changeRoutine symbol fun _ => others)
      match placeInOrder? others symbol anchor with
      | some target =>
          modify (·.changeRoutine symbol fun routine =>
            { routine with order := Routine.insertAfter place target others.order })
      | none => throw (.anchorNotHere (← Build.quoted anchor))

/-! ## Shared returns -/

/-- The address that holds the value to return: a slot at the start of the entry block. -/
def createSlot (reference : FunctionRef) (result : IRType) : Build Operand := do
  match ((← get).function reference).entry with
  | none => throw .failedCheck
  | some entry =>
      let slot ← Build.emitFirst entry "retval" (.alloca result none)
      modify (·.changeFunction reference fun function => { function with slot := some slot })
      return slot

/-- The block that all shared returns of a function lead to, set up on first use: it returns what
the slot holds, or nothing from a `void` function. -/
def setUpReturn (reference : FunctionRef) : Build BlockRef := do
  match ((← get).function reference).exit with
  | some exit => return exit
  | none =>
      let result := ((← get).routineOf reference).result
      let slot? ← if result = .void then pure none else some <$> createSlot reference result
      let exit ← appendNamed reference "return"
      modify (·.changeFunction reference fun function => { function with exit := some exit })
      match slot? with
      | none => let _ ← Build.emit exit .retVoid
      | some slot =>
          let value ← Build.emit exit (.load slot)
          let _ ← Build.emit exit (.ret value)
      return exit

end Function

end StructuredIR
