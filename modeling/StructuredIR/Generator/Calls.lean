import StructuredIR.Generator.Basic
import StructuredIR.Library.Resolution

/-! # Calls

Functions are called with arguments coerced to the types of their parameters, whether they are
given by name, as functions or as operands; fragments are expanded in place. -/

namespace StructuredIR

namespace Generator

/-- The argument for a parameter of a type; truth values widen to integers. -/
def coerceArgument (place : GeneratorId) (value : Value) (parameter : IRType) :
    Build Operand := do
  match value, parameter with
  | .truth value, .int width => return .wrapped width (if value then 1 else 0)
  | value, parameter =>
      let argument ← coerce place value (some parameter)
      if argument.type = parameter then return argument
      Build.reject (.coercion parameter.text argument.type.text)

/-- The arguments for the parameters of some types; further ones keep their own types. -/
def coerceArguments (place : GeneratorId) : List IRType → List Value → Build (List Operand)
  | parameter :: parameters, value :: values => do
      return (← coerceArgument place value parameter) :: (← coerceArguments place parameters values)
  | _, values => coerceEach place values

/-- A call of a function of a library. -/
def callFunction (place : GeneratorId) (function : FunctionRef) (arguments : List Value) :
    Build Operand := do
  let routine := (← get).routineOf function
  let parameters := routine.parameterTypes
  if arguments.length < parameters.length ∨
      parameters.length < arguments.length ∧ !routine.isVariadic then
    let name ← Build.plain ((← get).function function).name
    Build.reject (.functionArity name arguments.length parameters.length)
  let arguments ← coerceArguments place parameters arguments
  let position ← position place
  let callee ← Function.callee (← library place) function
  Build.emit position (.call ((← get).routineOperand callee) arguments)

/-- What a fragment puts in the place of a call. -/
def expand (interpret : Value → Callback) (fragment : FragmentId) (place : Value)
    (arguments : List Value) : Build Value := do
  let fragment := (← get).fragment fragment
  match fragment.body.fragmentArity? with
  | none => (interpret fragment.body).run (place :: arguments)
  | some arity =>
      if arguments.length = arity then (interpret fragment.body).run (place :: arguments)
      else
        let name ← Build.plain fragment.name
        Build.reject (.fragmentArity name arguments.length arity)

/-- What a name stands for, called with arguments: a global gives itself. -/
def callName (interpret : Value → Callback) (place : GeneratorId) (name : Phrase)
    (arguments : List Value) : Build Value := do
  let library ← library place
  match Library.resolve (← get) library (.text name.content) true with
  | .fragment fragment => expand interpret fragment (.generator place) arguments
  | .function function => return .operand (← callFunction place function arguments)
  | .global operand => return .operand operand
  | .notFound => Build.reject (.unknownName name.plain ((← get).library library).name.plain)

/-- A call of a function, of a function pointer or of what a name stands for. -/
def call (interpret : Value → Callback) (place : GeneratorId) (callee : Value)
    (arguments : List Value) : Build Value :=
  unlessFinished place do
    match callee, callee.phrase? with
    | .function function, _ => return .operand (← callFunction place function arguments)
    | .operand callee, _ =>
        let position ← position place
        let arguments ← coerceEach place arguments
        return .operand (← Build.emit position (.call callee arguments))
    | _, some name => callName interpret place name arguments
    | callee, none => Build.reject (.notCallable callee.typeName)

/-- The global of a name in the library of a generator. -/
def lookUpGlobal (place : GeneratorId) (name : Value) : Build Value := do
  let name ← Build.nameOf name
  let library ← library place
  let world ← get
  match (world.library library).globals.get? name.key with
  | some entry => return .operand (Library.globalOperand world library entry)
  | none => return .none

end Generator

end StructuredIR
