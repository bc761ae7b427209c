/-! # References

The places by which values, functions and generators refer to the things of a session. Things are
only ever added to the rows that hold them, so a place identifies a thing for good. -/

namespace StructuredIR

/-- The place of a library, and of the module it owns, in the order of creation. -/
abbrev LibraryId := Nat

/-- The place of a registry in the order of creation. -/
abbrev RegistryId := Nat

/-- The place of a fragment in the order of creation. -/
abbrev FragmentId := Nat

/-- The place of a generator in the order of creation. -/
abbrev GeneratorId := Nat

/-- The place of a symbol table in the order of creation. -/
abbrev TableId := Nat

/-- The place of a scope in the order of creation. -/
abbrev ScopeId := Nat

/-- The place of a held value in the order of creation. -/
abbrev HeldId := Nat

/-- A global or routine of a module. -/
structure SymbolRef where
  /-- The library that owns the module. -/
  owner : LibraryId
  /-- The place of the symbol in the module. -/
  place : Nat
  deriving DecidableEq, Repr, Inhabited

/-- A block of a routine. -/
structure BlockRef where
  /-- The routine that the block belongs to. -/
  routine : SymbolRef
  /-- The place of the block in the order of creation. -/
  place : Nat
  deriving DecidableEq, Repr, Inhabited

/-- A function declared in a library. -/
structure FunctionRef where
  /-- The library that declares the function. -/
  owner : LibraryId
  /-- The place of the function among those of the library. -/
  place : Nat
  deriving DecidableEq, Repr, Inhabited

end StructuredIR
