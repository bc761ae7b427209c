import StructuredIR.Diagnostic.Cause
import StructuredIR.Diagnostic.Report
import StructuredIR.StringPool
import StructuredIR.Value

/-! # Libraries

A library owns one module and three tables of what it declares: functions, fragments and globals.
The strings that it uses are kept in a pool of its module, its warnings in a report. -/

namespace StructuredIR

/-- A function declared in a library. -/
structure Function where
  /-- The name of the function inside the library. -/
  name : Value
  /-- The place of the routine in the module of the library. -/
  symbol : Nat
  /-- The block at which the body begins; none for an external declaration. -/
  entry : Option BlockRef
  /-- The block that all shared returns lead to, once there is one. -/
  exit : Option BlockRef
  /-- The address that holds the value to return, once there is one. -/
  slot : Option Operand
  /-- Who sees the function. -/
  visibility : Value
  deriving Inhabited

/-- Whether a function is declared without a body. -/
def Function.isDeclaration (function : Function) : Bool :=
  function.entry.isNone

/-- A global declared in a library. -/
structure GlobalEntry where
  /-- The name of the global inside the library. -/
  name : Value
  /-- The place of the global in the module of the library. -/
  symbol : Nat
  /-- Who sees the global. -/
  visibility : Visibility
  deriving Inhabited

/-- A body that is put in the place of each call. -/
structure Fragment where
  /-- The name of the fragment. -/
  name : Value
  /-- What is called with the generator and the arguments. -/
  body : Value
  /-- Who sees the fragment. -/
  visibility : Value
  deriving Inhabited

/-- A library. -/
structure Library where
  /-- The name of the library. -/
  name : Phrase
  /-- The module that the library owns. -/
  module : Module
  /-- Who sees what is declared from now on. -/
  visibility : Visibility
  /-- How importing libraries name what this library declares. -/
  policy : NamePolicy
  /-- The registry in which other libraries are found by name. -/
  registry : Option RegistryId
  /-- The functions by their names inside the library. -/
  functions : Dictionary Key Function
  /-- The fragments by their names inside the library. -/
  fragments : Dictionary Key FragmentId
  /-- The globals by their names inside the library. -/
  globals : Dictionary Key GlobalEntry
  /-- The pooled strings. -/
  pool : StringPool
  /-- The warnings. -/
  report : Report
  /-- What counts as true if warnings are also written to the error stream. -/
  echo : Value
  deriving Inhabited

namespace Library

/-- A library without declarations. -/
def empty (name : Phrase) (visibility : Visibility) (policy : NamePolicy)
    (registry : Option RegistryId) (report : Report) (echo : Value) : Library :=
  { name, visibility, policy, registry, report, echo
    module := .empty name
    functions := []
    fragments := []
    globals := []
    pool := .empty name.plain }

/-- The functions that are shown: the public ones, or all. -/
def shownFunctions (library : Library) (includePrivate : Bool) : Dictionary Key Function :=
  library.functions.filter fun entry => includePrivate || entry.2.visibility.isPublic

/-- The globals that are shown: the public ones, or all. -/
def shownGlobals (library : Library) (includePrivate : Bool) : Dictionary Key GlobalEntry :=
  library.globals.filter fun entry => includePrivate || entry.2.visibility == .isPublic

/-- The names that already stand for something. -/
def takenNames (library : Library) : List Key :=
  library.functions.keys ++ library.fragments.keys ++ library.globals.keys

/-- What a library is described by. -/
def describe (library : Library) : String :=
  let counts :=
    [toString library.functions.length ++ " functions",
      toString library.fragments.length ++ " macros",
      toString library.globals.length ++ " globals",
      toString library.pool.entries.length ++ " strings"]
  "Library(" ++ library.name.quoted ++ ", " ++ library.visibility.text ++ ", prefix=" ++
    library.policy.text ++ ", " ++ ", ".intercalate counts ++ ")"

end Library

end StructuredIR
