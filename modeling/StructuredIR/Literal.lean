import StructuredIR.Description

/-! # Literals

Constants that are made straight from a type and a value, without coercion. A row has to have as
many items as the type has elements, a single value fills a whole vector, and a value that is no
plain data is held for its text. -/

namespace StructuredIR

namespace Operand

/-- The constant of a type without a determined value. -/
def undefinedOf : IRType → Except Fault Operand
  | .void => .error .failedCheck
  | .vector size element => do return .repeated size element (← undefinedOf element)
  | type => .ok (.undefined type)

/-- The constant of a type that is no vector from a value that is no row. -/
def literalOfScalar (type : IRType) (value : Value) : Build Operand :=
  match value with
  | .none => zero type
  | .truth value => pure (.truth type value)
  | .integer value => pure (.integer type value)
  | .real value => pure (.real type value)
  | .text content => pure (.verbatim type content)
  | .bytes content true => pure (.bytes type content)
  | .foreign .undetermined => undefinedOf type
  | value => Build.hold type value

/-- The constant of a type from a value that is no row. -/
def literalOfSingle (value : Value) : IRType → Build Operand
  | .void => throw .failedCheck
  | .vector size element => do
      match value with
      | .operand known =>
          if known.isConstant then
            if known.type = element then return .repeated size element known
            throw (.contentType element known.type)
          return .repeated size element (← literalOfSingle value element)
      | _ => return .repeated size element (← literalOfSingle value element)
  | type => literalOfScalar type value

/-- The constant of a type from a value that is no row, unless it is an operand. -/
def elementOfSingle (type : IRType) (value : Value) : Build Operand :=
  match value with
  | .operand known => pure known
  | value => literalOfSingle value type

/-- The types of the elements of a constant that has a number of them; none for a type without
elements. -/
def elementTypes (type : IRType) (given : Nat) : Except Fault (Option (List IRType)) :=
  let mismatch : Except Fault (Option (List IRType)) := .error (.contentSize type given)
  match type with
  | .void => .error .failedCheck
  | .array size element | .vector size element =>
      if IRType.countLimit ≤ size then .error .uncountable
      else if size = given then .ok (some (List.replicate given element))
      else mismatch
  | .struct fields => if fields.length = given then .ok (some fields) else mismatch
  | _ => .ok none

/-- The elements of a constant from values that are no rows. -/
def elementsOfSingles : List IRType → List Value → Build (List Operand)
  | type :: types, item :: items => do
      let element ← elementOfSingle type item
      return element :: (← elementsOfSingles types items)
  | _, _ => pure []

mutual

/-- The constant of a type made straight from a value. -/
def literal (type : IRType) (value : Value) : Build Operand :=
  match value with
  | .list items => do
      match ← elementTypes type items.length with
      | some types => return .aggregate type (← literals types items)
      | none => Build.hold type (.list items)
  | .tuple items => do
      match ← elementTypes type items.length with
      | some types => return .aggregate type (← literals types items)
      | none => Build.hold type (.tuple items)
  | .resolution kind target => do
      match ← elementTypes type 2 with
      | some [first, second] =>
          let first ← literalOfSingle (.symbolKind kind) first
          return .aggregate type [first, ← element second target]
      | _ => Build.hold type (.resolution kind target)
  | .liveRow row => do
      let items := (← get).rowItems row
      match ← elementTypes type items.length with
      | some types => return .aggregate type (← elementsOfSingles types items)
      | none => Build.hold type (.liveRow row)
  | value => literalOfSingle value type

/-- An element of a constant; one that is an operand stays what it is. -/
def element (type : IRType) (value : Value) : Build Operand :=
  match value with
  | .operand known => pure known
  | value => literal type value

/-- The elements of a constant. -/
def literals (types : List IRType) (items : List Value) : Build (List Operand) :=
  match types, items with
  | type :: types, item :: items => do
      let first ← element type item
      return first :: (← literals types items)
  | _, _ => pure []

end

end Operand

end StructuredIR
