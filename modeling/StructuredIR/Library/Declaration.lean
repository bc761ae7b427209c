import StructuredIR.Coercion
import StructuredIR.Description
import StructuredIR.Function.Basic
import StructuredIR.Generator.Basic
import StructuredIR.Registry

/-! # Declarations

How libraries come about and what is declared in them. A malformed name, visibility or naming
policy of a library is replaced, with a warning; a name that is declared already is refused. -/

namespace StructuredIR

namespace Library

/-! ## Libraries -/

/-- Whether a character can begin a library name. -/
def isNameStart (char : Char) : Bool :=
  char.isAlpha || char == '_'

/-- Whether a character can follow in a library name. -/
def isNameRest (char : Char) : Bool :=
  char.isAlphanum || char == '_' || char == '.'

/-- Whether a library can have a name; a line feed at the end is let through. -/
def isValidName (name : String) : Bool :=
  match Text.withoutFinalLineFeed name.toList with
  | [] => false
  | first :: rest => isNameStart first && rest.all isNameRest

/-- The valid name that a value is. -/
def validName? (name : Value) : Option Phrase :=
  name.phrase?.filter fun phrase => isValidName phrase.content

/-- Whether a value stands for no name at all. -/
def isMissingName : Value → Bool
  | .none => true
  | .text content => content == ""
  | _ => false

/-- A made-up library name. -/
def makeUpName : Build String := do
  let number := (← get).madeUpNames + 1
  modify fun world => { world with madeUpNames := number }
  return "library" ++ toString number

/-- A report of a library with one more catalogued warning. -/
def note (report : Report) (echo : Value) (cause : Cause) : Build Report :=
  Build.note report echo cause.code.text cause.message

/-- The name of a library: the given one if it is valid, and else a made-up one. -/
def chooseName (report : Report) (echo name : Value) : Build (Phrase × Report) := do
  match validName? name with
  | some name => return (name, report)
  | none =>
      let madeUp ← makeUpName
      if isMissingName name then return (.text madeUp, report)
      return (.text madeUp, ← note report echo (.invalidName (← Build.quoted name) madeUp))

/-- The visibility that a library begins with: the given one if it is valid, and else public. -/
def chooseVisibility (report : Report) (echo visibility : Value) :
    Build (Visibility × Report) := do
  Build.tryKey visibility
  match visibility.visibility? with
  | some visibility => return (visibility, report)
  | none =>
      let fallback := Visibility.isPublic
      let quoted ← Build.quoted visibility
      return (fallback, ← note report echo (.invalidVisibility quoted fallback.text))

/-- The naming policy of a library: the given one if it is valid, and else the smart one. -/
def choosePolicy (report : Report) (echo policy : Value) : Build (NamePolicy × Report) := do
  Build.tryKey policy
  match policy.policy? with
  | some policy => return (policy, report)
  | none =>
      let fallback := NamePolicy.smart
      let quoted ← Build.quoted policy
      return (fallback, ← note report echo (.invalidPolicy quoted fallback.text))

/-- The registry that a value is, if there is one. -/
def registryOf : Value → Except Fault (Option RegistryId)
  | .none => .ok none
  | .registry place => .ok (some place)
  | _ => .error .missingAttribute

/-- A new library. -/
def add (library : Library) : Build LibraryId := do
  let place := (← get).libraries.length
  modify fun world => { world with libraries := world.libraries ++ [library] }
  return place

/-- A new library, entered in a registry if there is one and handed to a callback if there is
one. -/
def create (name visibility policy registry echo : Value) (body : Option Callback) :
    Build LibraryId := do
  -- A warning about the name cannot be in the name of the library yet.
  let (name, report) ← chooseName (.empty (.text "<library>")) echo name
  let report := { report with source := name }
  let (visibility, report) ← chooseVisibility report echo visibility
  let (policy, report) ← choosePolicy report echo policy
  let registry ← registryOf registry
  if let some registry := registry then Registry.requireFree registry name
  let place ← add (.empty name visibility policy registry report echo)
  if let some registry := registry then Registry.enter registry name place
  if let some body := body then let _ ← body.run [.library place]
  return place

/-- A new library with nothing but a string pool, whose names begin with a stem. -/
def ofPool (name stem : String) : Build LibraryId := do
  let library := empty (.text name) .isPublic .smart none (.empty (.text name)) (.truth false)
  add { library with pool := .empty stem }

/-- New external globals of a type in the module of a library. -/
def declareExternals (place : LibraryId) (type : IRType) (names : List String) : Build Unit :=
  names.forM fun name => do
    let _ ← Build.declareSymbol place (.ofText name) (.global (.external type))

/-! ## Functions and fragments -/

/-- Refuses a name that is declared already. -/
def requireFree {Entry : Type} (place : LibraryId) (kind : String) (name : Name)
    (entries : Dictionary Key Entry) : Build Unit := do
  if entries.holds name.key then
    let shown ← Build.plain name.shown
    Build.reject (.alreadyDeclared kind shown ((← get).library place).name.plain)

/-- The name in the module of what is declared under a name: behind the name of the library,
unless the library leaves names as they are. -/
def symbolName (library : Library) (name : Value) : Build Value := do
  match library.policy with
  | .plain => return name
  | .smart | .qualified => return .text (library.name.plain ++ "_" ++ (← Build.plain name))

/-- Enters a function in a library. -/
def enterFunction (place : LibraryId) (key : Key) (function : Function) : Build FunctionRef := do
  let reference : FunctionRef := ⟨place, ((← get).library place).functions.length⟩
  modify (·.changeLibrary place fun library =>
    { library with functions := library.functions ++ [(key, function)] })
  return reference

/-- A new function of a library with parameters and a result given as values, and a way to name
its routine. -/
def declareFunction (place : LibraryId) (name : Name) (parameters result : Value)
    (symbolName : Build Value) (visibility : Visibility) (isDeclaration : Bool) :
    Build FunctionRef := do
  requireFree place "function" name ((← get).library place).functions
  let signature ← Signature.ofValue (← get) parameters
  let result ← result.asType Signature.operationName
  let symbol ← Build.nameOf (← symbolName)
  enterFunction place name.key
    (← Function.create place name.shown signature result symbol visibility isDeclaration)

/-- A function that is defined in a library. A callback may build its body. -/
def define (place : LibraryId) (name parameters result : Value) (body : Option Callback) :
    Build FunctionRef := do
  let name ← Build.nameOf name
  let library := (← get).library place
  let function ← declareFunction place name parameters result (symbolName library name.shown)
    library.visibility false
  if let some body := body then
    let generator ← Generator.atEntry function
    let _ ← body.run [.generator generator]
  return function

/-- A function that is defined elsewhere, under its own name. -/
def declareExternal (place : LibraryId) (name parameters result : Value) :
    Build FunctionRef := do
  let name ← Build.nameOf name
  declareFunction place name parameters result (pure name.shown) .isPublic true

/-- A new fragment. -/
def addFragment (fragment : Fragment) : Build FragmentId := do
  let place := (← get).fragments.length
  modify fun world => { world with fragments := world.fragments ++ [fragment] }
  return place

/-- Enters a fragment in a library. -/
def enterFragment (place : LibraryId) (key : Key) (fragment : FragmentId) : Build Unit :=
  modify (·.changeLibrary place fun library =>
    { library with fragments := library.fragments.enter key fragment })

/-- A fragment that is declared in a library. -/
def declareFragment (place : LibraryId) (name body : Value) : Build FragmentId := do
  let name ← Build.nameOf name
  let library := (← get).library place
  requireFree place "macro" name library.fragments
  let fragment ← addFragment ⟨name.shown, body, .visibility library.visibility⟩
  enterFragment place name.key fragment
  return fragment

/-! ## Globals -/

/-- Enters a global in a library. -/
def enterGlobal (place : LibraryId) (key : Key) (entry : GlobalEntry) : Build Unit :=
  modify (·.changeLibrary place fun library =>
    { library with globals := library.globals.enter key entry })

/-- An external global of a type. -/
def externalGlobal (place : LibraryId) (name : Name) (type : Value) : Build GlobalEntry := do
  let symbol ← Build.ensureGlobal place name (← type.asType "global")
  return ⟨name.shown, symbol.place, .isPublic⟩

/-- A global that starts with a value. -/
def definedGlobal (place : LibraryId) (name : Name) (value : Value) : Build GlobalEntry := do
  let initial ← Coercion.coerce (some place) value none
  let library := (← get).library place
  let symbolName ← Build.nameOf (← symbolName library name.shown)
  let symbol ← Build.ensureGlobal place symbolName initial.type
  modify (·.changeGlobal symbol fun global =>
    { global with
      initial := some initial
      isPrivate := global.isPrivate || library.visibility == .isPrivate })
  return ⟨name.shown, symbol.place, library.visibility⟩

/-- Whether a value gives the type of an external global, not the value of a defined one. -/
def isTypeLike : Value → Bool
  | .type _ => true
  | value => value.text?.isSome

/-- A global that is declared in a library: external if a type is given, and else defined with a
value. -/
def declareGlobal (place : LibraryId) (name valueOrType : Value) : Build GlobalEntry := do
  let name ← Build.nameOf name
  requireFree place "global" name ((← get).library place).globals
  let entry ←
    if isTypeLike valueOrType then externalGlobal place name valueOrType
    else definedGlobal place name valueOrType
  enterGlobal place name.key entry
  return entry

/-- A global whose value never changes. -/
def declareConstant (place : LibraryId) (name valueOrType : Value) : Build GlobalEntry := do
  let entry ← declareGlobal place name valueOrType
  modify (·.changeGlobal ⟨place, entry.symbol⟩ fun global => { global with isConstant := true })
  return entry

end Library

end StructuredIR
