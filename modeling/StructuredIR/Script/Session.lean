import StructuredIR.Display
import StructuredIR.Script.Evaluation
import StructuredIR.Script.Operations

/-! # Sessions

A session runs the steps of a script one after the other and records how each of them came out.
A step that fails ends the body that it is in, unless it is guarded; nothing is undone. Bodies
are run in new scopes when they are called. -/

namespace StructuredIR

namespace Script

/-! ## Steps -/

/-- The operations that all values have. -/
def onAnything? (call : Call) (target : Value) (asked : String) : String → Option (Build Value)
  | "let" => some (pure (call.value 0 ""))
  | "get" => some (attributeOf target asked)
  | "repr" => some do return .text (← Build.quoted target)
  | "ir" => some do return .text (← Build.plain (← attributeOf target "module"))
  | "contains" => some do return .truth (← holds target (call.value 0 ""))
  | "len" => some do lengthOf (← get) target
  | "iter" => some do return .list (← itemsOf (← get) target)
  | _ => none

/-- Does what a step says, for a body with the given standing target. -/
def perform (interpret : Value → Callback) (scope : ScopeId) (standing : Value) (step : Step) :
    Build Value := do
  let target ←
    match step.target with
    | some expression => evaluate scope standing expression
    | none => pure standing
  let positional ← evaluateAll scope target step.positional
  let named ← evaluateNamed scope target step.named
  let call : Call := ⟨interpret, positional, named⟩
  match onAnything? call target step.asked step.verb <|> construct? call step.verb <|>
      onTarget? call target step.verb with
  | some action => action
  | none => (interpret (← attributeOf target step.verb)).run positional

/-- What something gives, or how it fails. -/
def attempt {Result : Type} (action : Build Result) : Build (Except Fault Result) :=
  try
    return .ok (← action)
  catch fault =>
    return .error fault

/-- Records how a step came out. -/
def record (verb : String) (result : Except Fault View) : Build Unit :=
  modify fun world => { world with outcomes := world.outcomes ++ [⟨verb, result⟩] }

/-- Remembers a library that a step gave for the first time. -/
def noteShown (value : Value) : Build Unit :=
  match value with
  | .library place =>
      modify fun world =>
        if world.shown.contains place then world
        else { world with shown := world.shown ++ [place] }
  | _ => pure ()

/-- Gives a step's result the name that the step asks for. -/
def bindResult (scope : ScopeId) (step : Step) (value : Value) : Build Unit :=
  match step.bind with
  | some name => bind scope name value
  | none => pure ()

/-- Runs a step. A result that cannot be viewed is recorded as a failure, but the step has done its
work: the result is kept and nothing ends. -/
def runStep (interpret : Value → Callback) (scope : ScopeId) (standing : Value)
    (isOutermost : Bool) (step : Step) : Build Unit := do
  match ← attempt (perform interpret scope standing step) with
  | .ok value =>
      record step.verb (← attempt (Build.view value))
      noteShown value
      bindResult scope step value
  | .error fault =>
      record step.verb (.error fault)
      unless isOutermost || step.isGuarded do throw fault
      bindResult scope step .none

/-! ## Bodies -/

/-- Whether a body can be called with a number of arguments. -/
def takes (body : Body) (given : Nat) : Bool :=
  body.parameters.length ≤ given && (body.rest.isSome || given ≤ body.parameters.length)

/-- What the names of a body stand for when it is called. -/
def parameterBindings (body : Body) (arguments : List Value) : Dictionary String Value :=
  let bound := body.parameters.zip arguments
  match body.rest with
  | some name => Dictionary.enter bound name (.list (arguments.drop body.parameters.length))
  | none => bound

/-- A new scope. -/
def openScope (scope : Scope) : Build ScopeId := do
  let place := (← get).scopes.length
  modify fun world => { world with scopes := world.scopes ++ [scope] }
  return place

/-- Runs a body with arguments. The first of them is the target of its steps. -/
def runBody (interpret : Value → Callback) (closure : Closure) (arguments : List Value) :
    Build Value := do
  let body := closure.body
  unless takes body arguments.length do
    throw (.callbackArguments body.parameters.length arguments.length)
  let scope ← openScope ⟨some closure.scope, parameterBindings body arguments⟩
  let standing := arguments.headD .none
  body.steps.forM (runStep interpret scope standing false)
  match body.result with
  | some expression => evaluate scope standing expression
  | none => return .none

/-- Calls a type, which makes a constant from a value. -/
def runType (type : IRType) (arguments : List Value) : Build Value := do
  match arguments with
  | [content] => return .operand (← Operand.literal type content)
  | arguments =>
      throw (.methodArguments (MethodSignature.ofType.complaint "Type.__call__" arguments.length))

/-- Calls a method of a value. A finished generator does not look at the arguments of an operation
that adds something. -/
def runMethod (interpret : Value → Callback) (receiver : Value) (name : String)
    (arguments : List Value) : Build Value := do
  let world ← get
  let isIdle :=
    match receiver with
    | .generator place => (world.generator place).isFinished && Generator.isIdle name
    | _ => false
  if isIdle then return .none
  match receiver.methodSignature? name, onTarget? ⟨interpret, arguments, []⟩ receiver name with
  | some signature, some action =>
      unless signature.accepts arguments.length do
        throw (.methodArguments
          (signature.complaint (receiver.methodTitle name) arguments.length))
      action
  | _, _ => throw .missingAttribute

/-- Calls a value. -/
def runValue (interpret : Value → Callback) (value : Value) (arguments : List Value) :
    Build Value :=
  match value with
  | .callback closure => runBody interpret closure arguments
  | .type known => runType known arguments
  | .method receiver name => runMethod interpret receiver name arguments
  | value => throw (.uncallable value.className)

/-- How a value is called, with calls inside of each other at most `depth` times. -/
def interpret : (depth : Nat) → Value → Callback
  | 0, value => ⟨value.arity?, fun _ => throw .tooDeep⟩
  | depth + 1, value => ⟨value.arity?, runValue (interpret depth) value⟩

/-- How often values can be called inside of each other. -/
def maximalDepth : Nat := 1000

/-! ## Sessions -/

/-- The registry of the program that is there from the beginning. -/
def firstRegistry : RegistryId := 0

/-- The outermost scope. -/
def outermostScope : ScopeId := 0

/-- The program that is there from the beginning. -/
def firstProgram : Value :=
  .program (.text "program") firstRegistry

/-- The world in which scripts begin: there is an empty program, which is called `P`. -/
def initialWorld : World :=
  { World.empty with registries := [[]], scopes := [⟨none, [("P", firstProgram)]⟩] }

/-- What is left of a library at the end of a session. -/
structure FinalLibrary where
  /-- The description of the library. -/
  description : String
  /-- The text of its module, or why there is none. -/
  text : Except Fault String
  /-- The lines of its warnings. -/
  warnings : String

/-- What is left of some libraries. -/
def finalLibraries : List LibraryId → Build (List FinalLibrary)
  | [] => pure []
  | place :: places => do
      let text ← attempt (Build.printModule place)
      let library := (← get).library place
      return ⟨library.describe, text, library.report.format false⟩ :: (← finalLibraries places)

/-- The libraries that are looked at in the end: those that steps gave, and then the others of
the program that was there from the beginning. -/
def librariesToShow (world : World) : List LibraryId :=
  world.shown ++ (Program.libraries world firstRegistry).filter fun place =>
    !world.shown.contains place

/-- Runs a script and gives what is left of its libraries. -/
def runScript (steps : List Step) : Build (List FinalLibrary) := do
  steps.forM (runStep (interpret maximalDepth) outermostScope .none true)
  finalLibraries (librariesToShow (← get))

/-- Everything that a session shows. -/
structure SessionResult where
  /-- How the steps came out, in the order of their completion. -/
  outcomes : List Outcome
  /-- What is left of the libraries. -/
  libraries : List FinalLibrary
  /-- What was written to the error stream. -/
  errorOutput : String

/-- The result of a script. -/
def session (steps : List Step) : SessionResult :=
  match (runScript steps).run initialWorld with
  | .ok libraries world => ⟨world.outcomes, libraries, world.errorOutput⟩
  | .error _ world => ⟨world.outcomes, [], world.errorOutput⟩

/-- The value of an expression outside of a session. -/
def evaluateAlone (expression : Expression) : Build Value :=
  evaluate outermostScope .none expression

/-- What something gives in the world in which scripts begin. -/
def runAlone {Result : Type} (action : Build Result) : Except Fault Result :=
  match action.run initialWorld with
  | .ok value _ => .ok value
  | .error fault _ => .error fault

end Script

end StructuredIR
