import StructuredIR.Generator.Basic

/-! # Aggregates

Elements of vectors, arrays and structures, taken out or replaced. The index into a vector is an
operand; those into arrays and structures have to be known. -/

namespace StructuredIR

namespace Generator

/-- The integer that plain data stands for. A row of bytes is empty or ends with a zero byte, so it
spells no integer. -/
def integerOf (value : Value) : Except Fault Int :=
  match value, value.phrase? with
  | .truth value, _ => .ok (if value then 1 else 0)
  | .integer value, _ => .ok value
  | .real value, _ => Value.integerOfReal value
  | .bytes content _, _ =>
      let quoted := Text.quotedBytes (content.take Value.shownDigits)
      .error (.malformedInteger (Value.cutShort quoted))
  | _, some phrase => Value.integerOfPhrase phrase
  | value, none => .error (.notNumber value.className)

/-- The integer that a value or the content of a constant stands for. -/
def knownIndex (value : Value) : Build Int := do
  match value with
  | .operand operand =>
      if operand.isConstant then integerOf (← Wording.standard.contentOf operand)
      else integerOf value
  | value => integerOf value

/-- The field of a structure at a position. -/
def field (fields : List IRType) (index : Int) : Except Fault IRType :=
  match Operation.fieldAt? fields index with
  | some field => .ok field
  | none => .error .indexOutOfRange

/-- A collection with one element replaced. -/
def insert (place : GeneratorId) (collection element index : Value) : Build Value :=
  operandUnlessFinished place do
    let aggregate ← coerce place collection none
    match aggregate.type with
    | .vector _ item =>
        let position ← position place
        let element ← coerce place element (some item)
        let index ← coerce place index (some (.int 32))
        Build.emit position (.insertElement aggregate element index)
    | .array _ item =>
        let position ← position place
        let element ← coerce place element (some item)
        Build.emit position (.insertValue aggregate element (← knownIndex index))
    | .struct fields =>
        let index ← knownIndex index
        let position ← position place
        let element ← coerce place element (some (← field fields index))
        Build.emit position (.insertValue aggregate element index)
    | type => Build.reject (.notAggregate "insert" type.text)

/-- An element of a collection. -/
def extract (place : GeneratorId) (collection index : Value) : Build Value :=
  operandUnlessFinished place do
    let aggregate ← coerce place collection none
    match aggregate.type with
    | .vector .. =>
        let position ← position place
        let index ← coerce place index (some (.int 32))
        Build.emit position (.extractElement aggregate index)
    | .array .. | .struct _ =>
        let position ← position place
        Build.emit position (.extractValue aggregate (← knownIndex index))
    | type => Build.reject (.notAggregate "extract" type.text)

end Generator

end StructuredIR
