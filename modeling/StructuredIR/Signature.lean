import StructuredIR.Type.Grammar
import StructuredIR.World

/-! # Types and signatures from values

Operations take types as such or by their texts. A signature is a row of types, with a mark at
its end for a function that takes further arguments. -/

namespace StructuredIR

/-- The length of the longest row of digits in a text, `run` of which have just been read. -/
def longestRun (run : Nat) : List Char → Nat
  | [] => run
  | char :: chars =>
      if char.isDigit then longestRun (run + 1) chars else max run (longestRun 0 chars)

/-- The type of a text: it has to be a sentence of the grammar, without a pointer to `void` and
with no number that is too long to be read. -/
def IRType.read (text quoted : String) : Except Fault IRType :=
  match IRType.ofText? text with
  | some type =>
      if type.pointsToVoid ∨ Number.maximalDigits < longestRun 0 text.toList then
        .error .unbuildableType
      else .ok type
  | none => .error (.rejected (.malformedType quoted))

/-- The type that a value is or spells, for an operation that is named in complaints. -/
def Value.asType (value : Value) (operation : String) : Except Fault IRType :=
  match value, value.phrase? with
  | .type known, _ => .ok known
  | _, some phrase => IRType.read phrase.content phrase.quoted
  | _, Option.none => .error (.rejected (.notType operation value.typeName))

/-- The parameter types of a function, and whether it takes further arguments. -/
structure Signature where
  /-- The types of the parameters. -/
  parameters : List IRType
  /-- Whether further arguments are taken. -/
  isVariadic : Bool
  deriving DecidableEq, Repr, Inhabited

namespace Signature

/-- What signatures are called in complaints. -/
def operationName : String :=
  "function signature"

/-- Whether a value is the mark of a variadic function. -/
def isMark : Value → Bool
  | .variadicMark => true
  | _ => false

/-- A row of values without a mark at its end, and whether there was one. -/
def splitMark (values : List Value) : List Value × Bool :=
  if values.getLast?.any isMark then (values.dropLast, true) else (values, false)

/-- The signature that the items of a value spell; a value that counts as false has none. -/
def ofValue (world : World) (value : Value) : Except Fault Signature := do
  let values ←
    if world.isTruthy value then
      match world.items? value with
      | some items => pure items
      | none => .error (.notIterable value.className)
    else pure []
  let (values, isVariadic) := splitMark values
  let parameters ← values.mapM fun value => value.asType operationName
  return ⟨parameters, isVariadic⟩

end Signature

end StructuredIR
