import StructuredIR.Equality

/-! # Calls of operations

The arguments of a call, by position or by name, and how an operation reads them: as values, as
truth values or as callbacks. -/

namespace StructuredIR

namespace Script

/-- The arguments of a call of an operation. -/
structure Call where
  /-- How values are called. -/
  interpret : Value → Callback
  /-- The arguments by position. -/
  positional : List Value
  /-- The arguments by name. -/
  named : Dictionary String Value

namespace Call

/-- The argument of a name, if it is given. -/
def named? (call : Call) (name : String) : Option Value :=
  Dictionary.get? call.named name

/-- The argument at a position or of a name, if it is given. -/
def value? (call : Call) (position : Nat) (name : String) : Option Value :=
  call.positional[position]? <|> call.named? name

/-- The argument at a position or of a name. -/
def value (call : Call) (position : Nat) (name : String) : Value :=
  (call.value? position name).getD .none

/-- The argument at a position or of a name, or what stands for it if it is not given. -/
def valueOr (call : Call) (position : Nat) (name : String) (fallback : Value) : Value :=
  (call.value? position name).getD fallback

/-- The arguments from a position on. -/
def rest (call : Call) (position : Nat) : List Value :=
  call.positional.drop position

/-- Whether an argument counts as true. -/
def flag (call : Call) (position : Nat) (name : String) (fallback : Bool) : Build Bool := do
  match call.value? position name with
  | some value => return (← get).isTruthy value
  | none => return fallback

/-- An argument that names something. -/
def name (call : Call) (position : Nat) (name : String) : Build Name :=
  Build.nameOf (call.value position name)

/-- A value as a callback, unless it is nothing. -/
def callbackOf (call : Call) : Value → Option Callback
  | .none => none
  | value => some (call.interpret value)

/-- An argument that is a callback, if it is given. -/
def callback? (call : Call) (position : Nat) (name : String) : Option Callback :=
  call.callbackOf (call.value position name)

/-- An argument that is a callback and can only be given by name. -/
def namedCallback? (call : Call) (name : String) : Option Callback :=
  (call.named? name).bind call.callbackOf

end Call

end Script

end StructuredIR
