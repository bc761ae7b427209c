import StructuredIR.Dictionary
import StructuredIR.Routine

/-! # Modules

A module is a row of named symbols, each a global or a routine. Names are never made unique: a
name that is taken cannot be declared again. -/

namespace StructuredIR

/-- A global of a module. -/
structure Global where
  /-- The type of the value that the global holds. -/
  valueType : IRType
  /-- The value that the global starts with; none for an external global. -/
  initial : Option Operand
  /-- Whether the value never changes. -/
  isConstant : Bool
  /-- Whether the global is hidden from other modules. -/
  isPrivate : Bool
  /-- Whether the address of the global does not matter. -/
  isUnnamed : Bool
  /-- The text of the global, once it has been printed. -/
  printed : Option String
  deriving Inhabited

/-- What a symbol of a module is. -/
inductive Content where
  /-- A global. -/
  | global (global : Global)
  /-- A routine. -/
  | routine (routine : Routine)
  deriving Inhabited

/-- A named thing of a module. -/
structure Symbol where
  /-- The name of the symbol. -/
  name : Value
  /-- What the symbol is. -/
  content : Content
  deriving Inhabited

/-- An external global of a type. -/
def Global.external (valueType : IRType) : Global :=
  ⟨valueType, none, false, false, false, none⟩

/-- A row of named symbols. -/
structure Module where
  /-- The name of the module. -/
  name : Phrase
  /-- The symbols in the order of their declaration. -/
  symbols : Dictionary Key Symbol
  deriving Inhabited

namespace Module

/-- The system that modules are for. -/
def triple : String :=
  "unknown-unknown-unknown"

/-- How that system lays out data; nothing is said about it. -/
def dataLayout : String :=
  ""

/-- A module without symbols. -/
def empty (name : Phrase) : Module :=
  ⟨name, []⟩

/-- The symbol at a place. -/
def symbol? (module : Module) (place : Nat) : Option Symbol :=
  (module.symbols[place]?).map Prod.snd

/-- The global at a place. -/
def global? (module : Module) (place : Nat) : Option Global :=
  match module.symbol? place with
  | some ⟨_, .global global⟩ => some global
  | _ => none

/-- The routine at a place. -/
def routine? (module : Module) (place : Nat) : Option Routine :=
  match module.symbol? place with
  | some ⟨_, .routine routine⟩ => some routine
  | _ => none

/-- The place of the global under a key. -/
def globalNamed? (module : Module) (key : Key) : Option Nat :=
  match module.symbols.placeOf? key with
  | some place => if (module.global? place).isSome then some place else none
  | none => none

/-- The place of the routine under a key. -/
def routineNamed? (module : Module) (key : Key) : Option Nat :=
  match module.symbols.placeOf? key with
  | some place => if (module.routine? place).isSome then some place else none
  | none => none

/-- The module with a symbol under a free key that is not the empty name. -/
def declare (module : Module) (key : Key) (symbol : Symbol) : Except Fault Module :=
  if key = .text "" ∨ module.symbols.holds key then .error .duplicateName
  else .ok { module with symbols := module.symbols ++ [(key, symbol)] }

/-- The module with a symbol changed. -/
def change (module : Module) (place : Nat) (update : Content → Content) : Module :=
  { module with
    symbols := module.symbols.modify place fun entry =>
      (entry.1, { entry.2 with content := update entry.2.content }) }

/-- The module with a global changed. -/
def changeGlobal (module : Module) (place : Nat) (update : Global → Global) : Module :=
  module.change place fun content =>
    match content with
    | .global global => .global (update global)
    | .routine routine => .routine routine

/-- The module with a routine changed. -/
def changeRoutine (module : Module) (place : Nat) (update : Routine → Routine) : Module :=
  module.change place fun content =>
    match content with
    | .global global => .global global
    | .routine routine => .routine (update routine)

end Module

end StructuredIR
