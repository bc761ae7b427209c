import StructuredIR.Description

/-! # Equality

The key of every value, by which values are told apart, and the rule which values can be keys of
dictionaries: those that hold nothing that can change. -/

namespace StructuredIR

namespace Build

/-- The key of a floating-point number, which is that of an integer if it is one. -/
def realKey (value : Double) : Key :=
  match value.truncate? with
  | some whole =>
      if value.isZero ∨ Double.ofInt? whole = some value then .number whole else .real value
  | none => .real value

/-- The key of an operand: constants are told by their texts. -/
def operandKey (operand : Operand) : Build Key := do
  let named (symbol : SymbolRef) (name : String) : Key :=
    .item (.thing .localValue [symbol.owner, symbol.place]) (.text name)
  match operand with
  | .global symbol _ | .routine symbol _ => return .thing .symbol [symbol.owner, symbol.place]
  | .parameter symbol name _ | .result symbol name _ _ => return named symbol name
  | .block place =>
      return .thing .block [place.routine.owner, place.routine.place, place.place]
  | constant => return .constant (← describe constant)

/-- The key of a value that holds no others. -/
def flatKey (value : Value) : Build Key := do
  match value with
  | .truth value => return .number (if value then 1 else 0)
  | .integer value => return .number value
  | .real value => return realKey value
  | .text content => return .text content
  | .bytes content _ => return .bytes content
  | .type known => return .type known
  | .operand known => operandKey known
  | .variadicMark => return .thing .variadicMark []
  | .visibility known => return .text known.text
  | .policy known => return .text known.text
  | .symbolKind known => return .symbolKind known
  | .foreign .set => return .rowEnd .set
  | .foreign .complex => return .imaginary
  | .foreign .undetermined => return .thing .undetermined []
  | .foreign .position => return .thing .position []
  | .repetition size _ => return .thing .repetition [size]
  | .object identity => return .thing .object [identity]
  | .function reference => return .thing .function [reference.owner, reference.place]
  | .fragment place => return .thing .fragment [place]
  | .generator place => return .thing .generator [place]
  | .library place => return .thing .library [place]
  | .module place => return .thing .module [place]
  | .report place => return .thing .report [place]
  | .diagnostic known =>
      return .row .diagnostic
        [.text known.kind, .text known.code, .text known.message,
          (known.source.map fun source => .text source.content).getD .none]
  | .registry place => return .thing .registry [place]
  | .program _ place => return .thing .program [place]
  | .table place => return .thing .table [place]
  | .callback closure => return .thing .callback [closure.identity]
  | _ => return .none

mutual

/-- The key of a value. -/
def keyOf : Value → Build Key
  | .list items => do return .row .list (← keysOf items)
  | .tuple items => do return .row .tuple (← keysOf items)
  | .dictionary entries => do return .row .dictionary (← entryKeys entries)
  | .liveRow row => do return .row .list (← ((← get).rowItems row).mapM flatKey)
  | .liveIndex index => do
      let keys ← ((← get).indexEntries index).mapM fun entry => do
        return .item (← flatKey entry.1) (← flatKey entry.2)
      return .row .dictionary keys
  | .symbolInfo ⟨name, symbolName, kind, isDeclaration, linkage, libraryName, typeText⟩ => do
      let name ← keyOf name
      let symbolName ← keyOf symbolName
      let kind ← keyOf kind
      let isDeclaration ← keyOf isDeclaration
      let linkage ← keyOf linkage
      let libraryName ← keyOf libraryName
      return .row .symbolInfo
        [name, symbolName, kind, isDeclaration, linkage, libraryName, ← keyOf typeText]
  | .resolution kind target => do
      return .row .tuple [.symbolKind kind, ← keyOf target]
  | .method receiver name => do
      return .row .method [.text name, ← keyOf receiver]
  | value => flatKey value

/-- The keys of some values. -/
def keysOf : List Value → Build (List Key)
  | [] => pure []
  | value :: values => do
      let key ← keyOf value
      return key :: (← keysOf values)

/-- The keys of some entries of a dictionary. -/
def entryKeys : List (Value × Value) → Build (List Key)
  | [] => pure []
  | (key, value) :: entries => do
      let key ← keyOf key
      let value ← keyOf value
      return .item key value :: (← entryKeys entries)

end

end Build

namespace Value

mutual

/-- The part of a value for which it cannot be a key: what can change, or holds what can. -/
def changeable? : Value → Option Value
  | .tuple items => anyChangeable? items
  | .resolution _ target => changeable? target
  | .list items => some (.list items)
  | .dictionary entries => some (.dictionary entries)
  | .liveRow row => some (.liveRow row)
  | .liveIndex index => some (.liveIndex index)
  | .bytes content true => some (.bytes content true)
  | .foreign .set => some (.foreign .set)
  | .symbolInfo info => some (.symbolInfo info)
  | .diagnostic known => some (.diagnostic known)
  | _ => Option.none

/-- The first part of some values for which they cannot be keys. -/
def anyChangeable? : List Value → Option Value
  | [] => Option.none
  | value :: values => (changeable? value).or (anyChangeable? values)

end

end Value

namespace Build

/-- Refuses a value that cannot be a key. -/
def requireKey (value : Value) : Build Unit :=
  match value.changeable? with
  | some part => throw (.unhashable part.className)
  | none => pure ()

/-- The name that a value is. -/
def nameOf (value : Value) : Build Name := do
  requireKey value
  return ⟨value, ← keyOf value⟩

/-- Looks a value up where it is nothing that is looked for. Only a constant whose text fails with
more than a wrong type or value lets the search fail. -/
def tryKey (value : Value) : Build Unit := do
  match value.changeable? with
  | some _ => pure ()
  | none =>
      try
        let _ ← keyOf value
      catch fault =>
        unless fault.kind = .wrongType || fault.kind = .wrongValue do throw fault

/-- Whether two values are equal. -/
def areEqual (left right : Value) : Build Bool := do
  return (← keyOf left) = (← keyOf right)

end Build

end StructuredIR
