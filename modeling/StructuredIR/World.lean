import StructuredIR.Library.Basic
import StructuredIR.View

/-! # Worlds

All that operations change: the libraries with their modules, the registries, fragments,
generators and symbol tables, what was written to the error stream, and what scripts keep. Things
are only ever added, so a reference stays good once it has been given. -/

namespace StructuredIR

/-- A place in a function at which instructions are added. -/
structure Generator where
  /-- The function that is being built. -/
  function : FunctionRef
  /-- The block that instructions are added to. -/
  block : Value
  /-- The block at which the generator began. -/
  start : Value
  /-- Where the next turn of the enclosing loop begins. -/
  loopBlock : Value
  /-- Where the enclosing loop ends. -/
  loopExit : Value
  /-- Whether nothing more is added. -/
  isFinished : Bool
  deriving Inhabited

/-- What is shown under a key of a symbol table, and the symbol that it stands for. -/
structure SymbolEntry where
  /-- The key as it was given first. -/
  shown : Value
  /-- What is said about the symbol. -/
  info : SymbolInfo
  deriving Inhabited

/-- The symbols that a library shows, by their names in the module. -/
structure SymbolTable where
  /-- The name of the library. -/
  libraryName : Value
  /-- The symbols by their names in the module. -/
  symbols : Dictionary Key SymbolEntry
  deriving Inhabited

/-- A value that a constant was made from. -/
structure Held where
  /-- The value. -/
  content : Value
  /-- The text of the constant, once it has been written. -/
  text : Option String
  deriving Inhabited

/-- The names of a script body and what they stand for. -/
structure Scope where
  /-- The scope in which the body was written. -/
  parent : Option ScopeId
  /-- What names were given to. -/
  bindings : Dictionary String Value
  deriving Inhabited

/-- How a step of a script came out. -/
structure Outcome where
  /-- The name of the step's operation. -/
  verb : String
  /-- The step's result, or why it failed. -/
  result : Except Fault View
  deriving Inhabited

/-- All that operations change. -/
structure World where
  /-- The libraries in the order of creation. -/
  libraries : List Library
  /-- The registries in the order of creation. -/
  registries : List (Dictionary Key LibraryId)
  /-- The fragments in the order of creation. -/
  fragments : List Fragment
  /-- The generators in the order of creation. -/
  generators : List Generator
  /-- The symbol tables in the order of creation. -/
  tables : List SymbolTable
  /-- The values that constants were made from, in the order of creation. -/
  held : List Held
  /-- How many values have been told from others by a number. -/
  identities : Nat
  /-- How many library names have been made up. -/
  madeUpNames : Nat
  /-- What was written to the error stream. -/
  errorOutput : String
  /-- The scopes of scripts in the order of creation. -/
  scopes : List Scope
  /-- How the steps of scripts came out, in the order of their completion. -/
  outcomes : List Outcome
  /-- The libraries that steps gave, in the order of their first appearance. -/
  shown : List LibraryId
  deriving Inhabited

namespace World

/-- A world without anything. -/
def empty : World :=
  ⟨[], [], [], [], [], [], 0, 0, "", [], [], []⟩

/-! ## Looking up -/

/-- The library of a reference. -/
def library (world : World) (place : LibraryId) : Library :=
  (world.libraries[place]?).getD default

/-- The registry of a reference. -/
def registry (world : World) (place : RegistryId) : Dictionary Key LibraryId :=
  (world.registries[place]?).getD []

/-- The fragment of a reference. -/
def fragment (world : World) (place : FragmentId) : Fragment :=
  (world.fragments[place]?).getD default

/-- The generator of a reference. -/
def generator (world : World) (place : GeneratorId) : Generator :=
  (world.generators[place]?).getD default

/-- The symbol table of a reference. -/
def table (world : World) (place : TableId) : SymbolTable :=
  (world.tables[place]?).getD default

/-- The function of a reference. -/
def function (world : World) (reference : FunctionRef) : Function :=
  (((world.library reference.owner).functions[reference.place]?).map Prod.snd).getD default

/-- The symbol of the routine behind a function. -/
def functionSymbol (world : World) (reference : FunctionRef) : SymbolRef :=
  ⟨reference.owner, (world.function reference).symbol⟩

/-- The global of a symbol. -/
def global? (world : World) (symbol : SymbolRef) : Option Global :=
  (world.library symbol.owner).module.global? symbol.place

/-- The routine of a symbol. -/
def routine? (world : World) (symbol : SymbolRef) : Option Routine :=
  (world.library symbol.owner).module.routine? symbol.place

/-- The routine of a symbol; one that does not exist looks like an empty one. -/
def routine (world : World) (symbol : SymbolRef) : Routine :=
  (world.routine? symbol).getD default

/-- The routine behind a function. -/
def routineOf (world : World) (reference : FunctionRef) : Routine :=
  world.routine (world.functionSymbol reference)

/-- The block of a reference; one that does not exist looks like an empty one. -/
def block (world : World) (place : BlockRef) : Block :=
  ((world.routine place.routine).blocks[place.place]?).getD default

/-- Whether a block is ended. -/
def isTerminated (world : World) (place : BlockRef) : Bool :=
  (world.block place).isTerminated

/-- The name of a symbol in its module. -/
def symbolName (world : World) (symbol : SymbolRef) : Value :=
  (((world.library symbol.owner).module.symbol? symbol.place).map Symbol.name).getD .none

/-! ## The operands of symbols -/

/-- A global as an operand. -/
def globalOperand (world : World) (symbol : SymbolRef) : Operand :=
  .global symbol (((world.global? symbol).map Global.valueType).getD default)

/-- A routine as an operand. -/
def routineOperand (world : World) (symbol : SymbolRef) : Operand :=
  .routine symbol (world.routine symbol).signature

/-- The parameters of a routine as operands. -/
def parameters (world : World) (symbol : SymbolRef) : List Operand :=
  (world.routine symbol).parameters.map fun parameter =>
    .parameter symbol parameter.1 parameter.2

/-- The blocks of a routine in order. -/
def blocks (world : World) (symbol : SymbolRef) : List BlockRef :=
  (world.routine symbol).order.map fun place => ⟨symbol, place⟩

/-! ## Live values -/

/-- The items of a row as it is now. -/
def rowItems (world : World) : LiveRow → List Value
  | .blocks routine => (world.blocks routine).map fun place => .operand (.block place)
  | .instructions place =>
      (world.block place).instructions.map fun instruction =>
        .operand (instruction.result place.routine)
  | .diagnostics place => (world.library place).report.items.map .diagnostic

/-- The symbol of a module at a place as an operand. -/
def symbolOperand (world : World) (symbol : SymbolRef) : Operand :=
  match world.global? symbol with
  | some global => .global symbol global.valueType
  | none => world.routineOperand symbol

/-- The symbols of the module of a library by their names. -/
def moduleSymbols (world : World) (place : LibraryId) : List (Value × Operand) :=
  (world.library place).module.symbols.zipIdx.map fun entry =>
    (entry.1.2.name, world.symbolOperand ⟨place, entry.2⟩)

/-- The entries of a dictionary as it is now. -/
def indexEntries (world : World) : LiveIndex → List (Value × Value)
  | .symbols place =>
      (world.table place).symbols.entries.map fun entry => (entry.shown, .symbolInfo entry.info)
  | .globals place =>
      (world.moduleSymbols place).map fun entry => (entry.1, .operand entry.2)

/-- The items of a list or a fixed row. -/
def row? (world : World) : Value → Option (List Value)
  | .list items | .tuple items => some items
  | .liveRow row => some (world.rowItems row)
  | .resolution kind target => some [.symbolKind kind, target]
  | _ => none

/-- The characters of a text one by one. -/
def characters (content : String) : List Value :=
  content.toList.map fun char => .text char.toString

/-- The items of a value that has some. -/
def items? (world : World) (value : Value) : Option (List Value) :=
  match value with
  | .dictionary entries => some (entries.map Prod.fst)
  | .liveIndex index => some ((world.indexEntries index).map Prod.fst)
  | .registry place => some ((world.registry place).entries.map .library)
  | .type (.struct fields) => some (fields.map .type)
  | .foreign .set => some []
  | .repetition size element => some (List.replicate size (.type element))
  | .bytes content _ => some (content.map fun byte => .integer byte.toNat)
  | value =>
      match value.text? with
      | some content => some (characters content)
      | none => world.row? value

/-- How many items a value has. -/
def length? (world : World) (value : Value) : Option Nat :=
  match value with
  | .type (.array size _) | .type (.vector size _) | .repetition size _ => some size
  | value => (world.items? value).map List.length

/-- Whether a value counts as true: nothing, zero and what is empty does not. -/
def isTruthy (world : World) (value : Value) : Bool :=
  match value with
  | .none => false
  | .truth value => value
  | .integer value => value != 0
  | .real value => !value.isZero
  | value => (world.length? value).all (· != 0)

/-- The values of a loop's variables: those of a row, none of nothing, and else a single one. -/
def loopValues (world : World) (value : Value) : List Value :=
  match value with
  | .none => []
  | value => (world.row? value).getD [value]

/-- Some values with the items of the rows among them one by one. -/
def flatten (world : World) (values : List Value) : List Value :=
  values.flatMap fun value => (world.row? value).getD [value]

/-! ## Changing -/

/-- The world with a library changed. -/
def changeLibrary (world : World) (place : LibraryId) (update : Library → Library) : World :=
  { world with libraries := world.libraries.modify place update }

/-- The world with the module of a library changed. -/
def changeModule (world : World) (place : LibraryId) (update : Module → Module) : World :=
  world.changeLibrary place fun library => { library with module := update library.module }

/-- The world with a routine changed. -/
def changeRoutine (world : World) (symbol : SymbolRef) (update : Routine → Routine) : World :=
  world.changeModule symbol.owner (·.changeRoutine symbol.place update)

/-- The world with a block changed. -/
def changeBlock (world : World) (place : BlockRef) (update : Block → Block) : World :=
  world.changeRoutine place.routine (·.changeBlock place.place update)

/-- The world with a global changed. -/
def changeGlobal (world : World) (symbol : SymbolRef) (update : Global → Global) : World :=
  world.changeModule symbol.owner (·.changeGlobal symbol.place update)

/-- The world with a function changed. -/
def changeFunction (world : World) (reference : FunctionRef) (update : Function → Function) :
    World :=
  world.changeLibrary reference.owner fun library =>
    { library with
      functions := library.functions.modify reference.place fun entry =>
        (entry.1, update entry.2) }

/-- The world with a generator changed. -/
def changeGenerator (world : World) (place : GeneratorId) (update : Generator → Generator) :
    World :=
  { world with generators := world.generators.modify place update }

/-- The world with a fragment changed. -/
def changeFragment (world : World) (place : FragmentId) (update : Fragment → Fragment) : World :=
  { world with fragments := world.fragments.modify place update }

/-- The world with a registry changed. -/
def changeRegistry (world : World) (place : RegistryId)
    (update : Dictionary Key LibraryId → Dictionary Key LibraryId) : World :=
  { world with registries := world.registries.modify place update }

/-- The world with a symbol table changed. -/
def changeTable (world : World) (place : TableId) (update : SymbolTable → SymbolTable) : World :=
  { world with tables := world.tables.modify place update }

/-- The world with a scope changed. -/
def changeScope (world : World) (place : ScopeId) (update : Scope → Scope) : World :=
  { world with scopes := world.scopes.modify place update }

/-- The world with the text of a held value kept. -/
def keepText (world : World) (place : HeldId) (text : String) : World :=
  { world with held := world.held.modify place fun held => { held with text := some text } }

/-- The world with a text written to the error stream. -/
def write (world : World) (text : String) : World :=
  { world with errorOutput := world.errorOutput ++ text }

end World

end StructuredIR
