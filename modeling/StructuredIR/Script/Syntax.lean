import StructuredIR.Visibility

/-! # The syntax of scripts

A script is a row of steps. A step calls an operation, by name, of the value that it targets, with
positional and named arguments, and may give the result a name. Arguments are expressions; one
kind of expression is a body of further steps, which runs in a scope of its own when it is
called. -/

namespace StructuredIR

/-- Values that the library has no use for. -/
inductive Foreign where
  /-- An empty set. -/
  | set
  /-- The imaginary unit. -/
  | complex
  /-- The content of a constant without a determined value. -/
  | undetermined
  /-- The position of a generator. -/
  | position
  deriving DecidableEq, Repr, Inhabited

namespace Script

/-- A step over expressions of a type. -/
structure StepOver (Expression : Type) where
  /-- The name of the operation. -/
  verb : String
  /-- The value that has the operation; none for the target of the enclosing body. -/
  target : Option Expression
  /-- The positional arguments. -/
  positional : List Expression
  /-- The named arguments. -/
  named : List (String × Expression)
  /-- The attribute that a step asks for. -/
  asked : String
  /-- The name that the result is given. -/
  bind : Option String
  /-- Whether the script goes on when the step fails. -/
  isGuarded : Bool
  deriving Repr, Inhabited

/-- A body over expressions of a type. -/
structure BodyOver (Expression : Type) where
  /-- The names of the parameters. -/
  parameters : List String
  /-- The name of the list of further arguments, if those are taken. -/
  rest : Option String
  /-- Whether the number of parameters can be seen from outside. -/
  isInspectable : Bool
  /-- The steps in order. -/
  steps : List (StepOver Expression)
  /-- What the body yields after its steps. -/
  result : Option Expression
  deriving Repr, Inhabited

/-- The number of arguments that a body takes, where it is fixed and can be seen. -/
def BodyOver.arity? {Expression : Type} (body : BodyOver Expression) : Option Nat :=
  if body.isInspectable && body.rest.isNone then some body.parameters.length else none

/-- The expressions of a script. -/
inductive Expression where
  /-- Nothing. -/
  | none
  /-- A truth value. -/
  | truth (value : Bool)
  /-- An integer. -/
  | integer (value : Int)
  /-- A floating-point number by its text. -/
  | real (text : String)
  /-- A text. -/
  | text (content : String)
  /-- A list. -/
  | list (items : List Expression)
  /-- A fixed row of values. -/
  | tuple (items : List Expression)
  /-- A type by its text. -/
  | type (text : String)
  /-- The type of pointers to functions with parts given by their texts. -/
  | functionPointer (result : String) (parameters : List String) (isVariadic : Bool)
  /-- A constant made directly from a value. -/
  | constant (type : String) (content : Expression)
  /-- A constant without a determined value. -/
  | undefined (type : String)
  /-- The mark behind the parameters of a variadic function. -/
  | variadicMark
  /-- A visibility. -/
  | visibility (visibility : Visibility)
  /-- A naming policy. -/
  | policy (policy : NamePolicy)
  /-- A kind of symbol. -/
  | symbolKind (kind : SymbolKind)
  /-- A value that the library has no use for. -/
  | foreign (foreign : Foreign)
  /-- An empty dictionary. -/
  | emptyDictionary
  /-- An empty row of bytes. -/
  | emptyBytes
  /-- A bare object. -/
  | object
  /-- What a name was given to. -/
  | named (name : String)
  /-- A parameter of the target, or of what a name was given to. -/
  | parameter (index : Int) (source : Option String)
  /-- An attribute of the target, or of a value. -/
  | member (name : String) (source : Option Expression)
  /-- An item of a list. -/
  | item (index : Int) (source : Expression)
  /-- The length of what a name was given to. -/
  | length (name : String)
  /-- All items of what a name was given to, as items of the list around it. -/
  | splat (name : String)
  /-- A body of steps. -/
  | body (body : BodyOver Expression)
  deriving Inhabited

/-- A step of a script. -/
abbrev Step := StepOver Expression

/-- A body of a script. -/
abbrev Body := BodyOver Expression

end Script

end StructuredIR
