import StructuredIR.Library.Resolution

/-! # Programs

A program is a named registry of libraries that are built together. It puts together the texts of
their modules and the symbols that they show. -/

namespace StructuredIR

namespace Program

/-- The libraries of a registry in the order of their registration. -/
def libraries (world : World) (registry : RegistryId) : List LibraryId :=
  (world.registry registry).entries

/-- The symbols with one more: a definition replaces a declaration, and else the first symbol of
a name stays. -/
def mergeSymbol (world : World) (merged : Dictionary Key SymbolEntry) (key : Key)
    (entry : SymbolEntry) : Dictionary Key SymbolEntry :=
  match merged.get? key with
  | none => merged.enter key entry
  | some current =>
      if world.isTruthy current.info.isDeclaration && !world.isTruthy entry.info.isDeclaration then
        merged.enter key ⟨current.shown, entry.info⟩
      else merged

/-- The symbols with those of a library. -/
def mergeLibrary (world : World) (merged : Dictionary Key SymbolEntry) (place : LibraryId) :
    Dictionary Key SymbolEntry :=
  (Library.symbolTable world place).symbols.foldl
    (fun merged entry => mergeSymbol world merged entry.1 entry.2) merged

/-- The symbols that the libraries of a registry show, by their names in the modules. -/
def symbols (world : World) (registry : RegistryId) : Dictionary Key SymbolEntry :=
  (libraries world registry).foldl (mergeLibrary world) []

/-- The texts of the modules of some libraries by the names of the libraries. -/
def emitAll : List LibraryId → Build (List (Value × Value))
  | [] => pure []
  | place :: places => do
      let text ← Build.printModule place
      let name := ((← get).library place).name
      return (name.value, .text text) :: (← emitAll places)

/-- The texts of all modules of a registry by the names of the libraries. -/
def emit (registry : RegistryId) : Build Value := do
  return .dictionary (← emitAll (libraries (← get) registry))

end Program

end StructuredIR
