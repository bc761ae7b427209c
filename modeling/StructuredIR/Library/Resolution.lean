import StructuredIR.Function.Basic

/-! # Resolution

What a library shows of its declarations, what a name stands for in it, and the symbol table that
describes its public functions and globals. -/

namespace StructuredIR

namespace Library

/-- The functions of a library that are shown, with their keys. -/
def shownReferences (world : World) (place : LibraryId) (includePrivate : Bool) :
    Dictionary Key FunctionRef :=
  ((world.library place).functions.zipIdx.filter fun entry =>
    includePrivate || entry.1.2.visibility.isPublic).map fun entry =>
      (entry.1.1, ⟨place, entry.2⟩)

/-- The fragments of a library that are shown: the public ones, or all. -/
def shownFragments (world : World) (place : LibraryId) (includePrivate : Bool) :
    Dictionary Key FragmentId :=
  (world.library place).fragments.filter fun entry =>
    includePrivate || (world.fragment entry.2).visibility.isPublic

/-- A global of a library as an operand. -/
def globalOperand (world : World) (place : LibraryId) (entry : GlobalEntry) : Operand :=
  world.globalOperand ⟨place, entry.symbol⟩

/-- The functions of a library by their names. -/
def functionValues (world : World) (place : LibraryId) (includePrivate : Bool) : Value :=
  .dictionary ((shownReferences world place includePrivate).entries.map fun reference =>
    ((world.function reference).name, .function reference))

/-- The fragments of a library by their names. -/
def fragmentValues (world : World) (place : LibraryId) (includePrivate : Bool) : Value :=
  .dictionary ((shownFragments world place includePrivate).entries.map fun fragment =>
    ((world.fragment fragment).name, .fragment fragment))

/-- The globals of a library by their names. -/
def globalValues (world : World) (place : LibraryId) (includePrivate : Bool) : Value :=
  .dictionary (((world.library place).shownGlobals includePrivate).entries.map fun entry =>
    (entry.name, .operand (globalOperand world place entry)))

/-- The pooled strings of a library by their texts. -/
def stringValues (world : World) (place : LibraryId) : Value :=
  .dictionary ((world.library place).pool.entries.entries.map fun pooled =>
    (pooled.shown.value, .operand (world.globalOperand ⟨place, pooled.place⟩)))

/-- What a name stands for in a library. -/
inductive Resolved where
  /-- A fragment. -/
  | fragment (place : FragmentId)
  /-- A function. -/
  | function (reference : FunctionRef)
  /-- A global. -/
  | global (operand : Operand)
  /-- Nothing. -/
  | notFound
  deriving Repr

/-- What a name stands for: a fragment before a function before a global. -/
def resolve (world : World) (place : LibraryId) (key : Key) (includePrivate : Bool) :
    Resolved :=
  match (shownFragments world place includePrivate).get? key,
    (shownReferences world place includePrivate).get? key,
    ((world.library place).shownGlobals includePrivate).get? key with
  | some fragment, _, _ => .fragment fragment
  | none, some reference, _ => .function reference
  | none, none, some entry => .global (globalOperand world place entry)
  | none, none, none => .notFound

/-- What a name stands for, as a value. -/
def Resolved.value : Resolved → Value
  | .fragment place => .resolution .fragment (.fragment place)
  | .function reference => .resolution .function (.function reference)
  | .global operand => .resolution .global (.operand operand)
  | .notFound => .resolution .notFound .none

/-! ## Symbol tables -/

/-- What the symbol table says about a symbol. -/
def describeSymbol (library : Library) (name symbolName : Value) (kind : SymbolKind)
    (isDeclaration : Bool) (type : IRType) : SymbolInfo :=
  { name, symbolName
    kind := .symbolKind kind
    isDeclaration := .truth isDeclaration
    linkage := .text Visibility.isPublic.linkage
    libraryName := library.name.value
    typeText := .text type.text }

/-- What the symbol table says about a public function. -/
def functionInfo (world : World) (reference : FunctionRef) : SymbolInfo :=
  let function := world.function reference
  describeSymbol (world.library reference.owner) function.name
    (world.symbolName (world.functionSymbol reference)) .function function.isDeclaration
    (world.routineOf reference).signature

/-- What the symbol table says about a public global. -/
def globalInfo (world : World) (place : LibraryId) (entry : GlobalEntry) : SymbolInfo :=
  let global := ((world.global? ⟨place, entry.symbol⟩).getD default)
  describeSymbol (world.library place) entry.name (world.symbolName ⟨place, entry.symbol⟩) .global
    global.initial.isNone global.valueType

/-- The symbol table with a symbol entered; a key that is there already stays as it is shown. -/
def enterSymbol (table : SymbolTable) (key : Key) (info : SymbolInfo) : SymbolTable :=
  let shown := ((table.symbols.get? key).map SymbolEntry.shown).getD info.symbolName
  { table with symbols := table.symbols.enter key ⟨shown, info⟩ }

/-- The key under which a symbol stands in its module. -/
def symbolKey (world : World) (symbol : SymbolRef) : Key :=
  (((world.library symbol.owner).module.symbols[symbol.place]?).map Prod.fst).getD .none

/-- The public functions and globals of a library. -/
def symbolTable (world : World) (place : LibraryId) : SymbolTable :=
  let library := world.library place
  let functions := (shownReferences world place false).entries.map fun reference =>
    (symbolKey world (world.functionSymbol reference), functionInfo world reference)
  let globals := (library.shownGlobals false).entries.map fun entry =>
    (symbolKey world ⟨place, entry.symbol⟩, globalInfo world place entry)
  (functions ++ globals).foldl (fun table entry => enterSymbol table entry.1 entry.2)
    ⟨library.name.value, []⟩

end Library

end StructuredIR
