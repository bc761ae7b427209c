import StructuredIR.Library.Declaration
import StructuredIR.Library.Resolution

/-! # Import

A library takes over what another one shows: functions and globals as external declarations,
fragments as they are, and pooled strings by their contents. The naming policy of the source
decides about names; what collides with a declaration of the importing library is left out, with
a warning. -/

namespace StructuredIR

namespace Library

/-- The library to import that a value stands for. -/
def importSource (place : LibraryId) (source : Value) : Build LibraryId := do
  match source, source.phrase? with
  | .library source, _ => return source
  | _, some name =>
      let world ← get
      match (world.library place).registry.bind
          fun registry => Registry.find? world registry (.text name.content) with
      | some source => return source
      | none => Build.reject (.unknownLibrary name.plain)
  | source, none => Build.reject (.notLibrary source.typeName)

/-- The name under which a symbol of the source is imported by the source's naming policy, and
whether it is an alias that is announced. -/
def aliasFor (source : Library) (name : Name) (plain : String) (isTaken : Bool) : Name × Bool :=
  let qualified := Name.ofText (source.name.plain ++ "_" ++ plain)
  match source.policy with
  | .qualified => (qualified, false)
  | .smart => if isTaken then (qualified, true) else (name, false)
  | .plain => (name, false)

/-- The name under which a symbol is imported, unless it collides with a name that was taken
before the import or with an entry of the same kind. -/
def importName (place : LibraryId) (kind : String) (name : Name) (source : Library)
    (entries taken : List Key) : Build (Option Name) := do
  let plain ← Build.plain name.shown
  let (imported, isAlias) := aliasFor source name plain (taken.contains name.key)
  let importedPlain ← Build.plain imported.shown
  if isAlias then Build.warn place (.importRenamed kind plain source.name.plain importedPlain)
  if taken.contains imported.key || entries.contains imported.key then
    Build.warn place (.importCollision kind importedPlain source.name.plain)
    return none
  return some imported

/-- Imports a function. -/
def importFunction (place : LibraryId) (taken : List Key) (entry : Key × FunctionRef) :
    Build Unit := do
  let world ← get
  let reference := entry.2
  let name : Name := ⟨(world.function reference).name, entry.1⟩
  let imported ← importName place "function" name (world.library reference.owner)
    (world.library place).functions.keys taken
  if let some imported := imported then
    let world ← get
    let routine := world.routineOf reference
    let symbol := world.functionSymbol reference
    let function ← Function.create place imported.shown
      ⟨routine.parameterTypes, routine.isVariadic⟩ routine.result
      ⟨world.symbolName symbol, symbolKey world symbol⟩ .isPublic true
    let _ ← enterFunction place imported.key function

/-- Imports a fragment. -/
def importFragment (place : LibraryId) (source : LibraryId) (taken : List Key)
    (entry : Key × FragmentId) : Build Unit := do
  let world ← get
  let name : Name := ⟨(world.fragment entry.2).name, entry.1⟩
  let imported ← importName place "macro" name (world.library source)
    (world.library place).fragments.keys taken
  if let some imported := imported then
    let fragment ← addFragment { world.fragment entry.2 with name := imported.shown }
    enterFragment place imported.key fragment

/-- Imports a global. -/
def importGlobal (place : LibraryId) (source : LibraryId) (taken : List Key)
    (entry : Key × GlobalEntry) : Build Unit := do
  let world ← get
  let imported ← importName place "global" ⟨entry.2.name, entry.1⟩ (world.library source)
    (world.library place).globals.keys taken
  if let some imported := imported then
    let world ← get
    let symbol : SymbolRef := ⟨source, entry.2.symbol⟩
    let global := (world.global? symbol).getD default
    let declared ← Build.ensureGlobal place ⟨world.symbolName symbol, symbolKey world symbol⟩
      global.valueType
    modify (·.changeGlobal declared fun declared =>
      { declared with isConstant := global.isConstant })
    enterGlobal place imported.key ⟨imported.shown, declared.place, .isPublic⟩

/-- Imports what another library shows. -/
def importFrom (place : LibraryId) (source : Value) : Build Unit := do
  let source ← importSource place source
  let world ← get
  if source = place then Build.reject (.selfImport (world.library place).name.plain)
  -- What the import itself enters does not make a name taken.
  let taken := (world.library place).takenNames
  (shownReferences world source false).forM (importFunction place taken)
  (shownFragments (← get) source false).forM (importFragment place source taken)
  (((← get).library source).shownGlobals false).forM (importGlobal place source taken)
  ((← get).library source).pool.entries.entries.forM fun pooled => do
    let _ ← Build.internString place pooled.shown

end Library

end StructuredIR
