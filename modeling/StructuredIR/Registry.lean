import StructuredIR.Build

/-! # Registries

A registry finds libraries by name. A name stays with the library that was entered first. -/

namespace StructuredIR

namespace Registry

/-- A new registry without libraries. -/
def create : Build RegistryId := do
  let place := (← get).registries.length
  modify fun world => { world with registries := world.registries ++ [[]] }
  return place

/-- Refuses a name that a library of the registry has. -/
def requireFree (place : RegistryId) (name : Phrase) : Build Unit := do
  if Dictionary.holds ((← get).registry place) (.text name.content) then
    Build.reject (.alreadyRegistered name.plain)

/-- Enters a library under a name. -/
def enter (place : RegistryId) (name : Phrase) (library : LibraryId) : Build Unit :=
  modify (·.changeRegistry place fun registry => registry.enter (.text name.content) library)

/-- Enters a library under its own name, which has to be free. -/
def register (place : RegistryId) (library : LibraryId) : Build Unit := do
  let name := ((← get).library library).name
  requireFree place name
  enter place name library

/-- The library of a name. -/
def find? (world : World) (place : RegistryId) (key : Key) : Option LibraryId :=
  Dictionary.get? (world.registry place) key

/-- Removes the library of a name and gives it. -/
def unregister (place : RegistryId) (key : Key) : Build (Option LibraryId) := do
  let found := find? (← get) place key
  modify (·.changeRegistry place fun registry => registry.remove key)
  return found

end Registry

end StructuredIR
