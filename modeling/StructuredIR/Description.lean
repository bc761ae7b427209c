import StructuredIR.Printing
import StructuredIR.Script.Method

/-! # Descriptions of values

The text of a value as messages quote it, and its plain text. Things of the library describe
themselves by their names and the state that they are in, and what belongs to a module is described
by its text. A value can hold others, which are described in turn, so descriptions are built up to
a depth. -/

namespace StructuredIR

/-! ## The parts of descriptions -/

/-- The content of a constant. -/
def Wording.contentOf (wording : Wording) : Operand → Build Value
  | .absent _ => pure .none
  | .undefined _ => pure (.foreign .undetermined)
  | .truth _ value => pure (.truth value)
  | .integer _ value => pure (.integer value)
  | .real _ value => pure (.real value)
  | .verbatim _ content => pure (.text content)
  | .bytes _ content => pure (.bytes content true)
  | .aggregate _ elements => pure (.list (elements.map .operand))
  | .repeated size _ item => pure (.tuple (List.replicate size (.operand item)))
  | .held _ place _ => do return (((← get).held[place]?).getD default).content
  | operand => do return .text (← wording.reference operand)

namespace World

/-- The instruction that gives the result of a name, if it is there. -/
def instruction? (world : World) (symbol : SymbolRef) (name : String) :
    Option (BlockRef × Instruction) :=
  (world.routine symbol).blocks.zipIdx.findSome? fun entry =>
    (entry.1.instructions.find? fun instruction => instruction.name == name).map
      fun instruction => (⟨symbol, entry.2⟩, instruction)

/-- The name of an operand that has one. -/
def operandName? (world : World) : Operand → Option Value
  | .global symbol _ | .routine symbol _ => some (world.symbolName symbol)
  | .parameter _ name _ | .result _ name _ _ => some (.text name)
  | .block place => some (world.block place).label
  | _ => none

/-- The linkage of a function, which is reported if its visibility is a proper one. -/
def linkage (world : World) (reference : FunctionRef) : Except Fault String :=
  match (world.function reference).visibility with
  | .visibility known => .ok known.linkage
  | _ => .error .missingAttribute

/-- The names of the libraries of a registry. -/
def registryNames (world : World) (place : RegistryId) : List Phrase :=
  (world.registry place).entries.map fun library => (world.library library).name

end World

namespace Wording

variable (wording : Wording)

/-- The description of a function. -/
def describeFunction (reference : FunctionRef) : Build String := do
  let name ← wording.quoted ((← get).function reference).name
  let signature := ((← get).routineOf reference).signature.text
  return "Function(" ++ name ++ ", " ++ signature ++ ", " ++ (← (← get).linkage reference) ++ ")"

/-- The description of a fragment. -/
def describeFragment (fragment : Fragment) : Build String := do
  let arity :=
    match fragment.body.fragmentArity? with
    | some arity => toString arity
    | none => "None"
  return "Macro(" ++ (← wording.quoted fragment.name) ++ ", arity=" ++ arity ++ ")"

/-- The name of what a generator is positioned at, if that has one. -/
def positionName (value : Value) : Build Value := do
  let world ← get
  match value with
  | .operand operand => Build.present (world.operandName? operand)
  | .function reference => return (world.function reference).name
  | .fragment place => return (world.fragment place).name
  | .library place => return (world.library place).name.value
  | .module place => return (world.library place).module.name.value
  | .program name _ => return name
  | .symbolInfo info => return info.name
  | .visibility known => return .text known.memberName
  | .policy known => return .text known.memberName
  | .symbolKind known => return .text known.memberName
  | _ => throw .missingAttribute

/-- The description of a generator. -/
def describeGenerator (generator : Generator) : Build String := do
  let function ← wording.quoted ((← get).function generator.function).name
  let block ← wording.quoted (← positionName generator.block)
  let state := if generator.isFinished then "finished" else "open"
  return "Generator(" ++ function ++ ", block=" ++ block ++ ", " ++ state ++ ")"

/-- The description of a registry. -/
def describeRegistry (names : List Phrase) : String :=
  "LibraryRegistry(" ++ ", ".intercalate (names.map Phrase.content) ++ ")"

/-- The description of a program. -/
def describeProgram (name : Value) (names : List Phrase) : Build String := do
  return "Program(" ++ (← wording.quoted name) ++ ", libraries=[" ++
    ", ".intercalate (names.map Phrase.quoted) ++ "])"

/-- The description of a symbol table. -/
def describeTable (table : SymbolTable) : Build String := do
  let world ← get
  let declared := table.symbols.entries.filter fun entry => world.isTruthy entry.info.isDeclaration
  let defined := table.symbols.length - declared.length
  return "SymbolTable(" ++ (← wording.plain table.libraryName) ++ ", " ++ toString defined ++
    " defs, " ++ toString declared.length ++ " decls)"

/-- Some values between two brackets. -/
def quotedRow (opening closing : String) (items : List Value) : Build String := do
  return opening ++ ", ".intercalate (← items.mapM wording.quoted) ++ closing

/-- The entries of a dictionary between braces. -/
def quotedEntries (entries : List (Value × Value)) : Build String := do
  let texts ← entries.mapM fun entry => do
    return (← wording.quoted entry.1) ++ ": " ++ (← wording.quoted entry.2)
  return "\x7b" ++ ", ".intercalate texts ++ "\x7d"

/-- The entries of a dictionary between braces and parentheses behind the name of a class. -/
def quotedIndex (className : String) (entries : List (Value × Value)) : Build String := do
  if entries.isEmpty then return className ++ "()"
  return className ++ "(" ++ (← wording.quotedEntries entries) ++ ")"

/-- Some named fields between parentheses behind the name of a class. -/
def quotedFields (className : String) (fields : List (String × Value)) : Build String := do
  let texts ← fields.mapM fun field => do
    return field.1 ++ "=" ++ (← wording.quoted field.2)
  return className ++ "(" ++ ", ".intercalate texts ++ ")"

/-- A type as messages quote it. -/
def quotedType (type : IRType) : String :=
  "<<class 'llvmlite.ir.types." ++ type.className ++ "'> " ++ type.text ++ ">"

/-- An operand as messages quote it. -/
def quotedOperand (operand : Operand) : Build String := do
  let world ← get
  let head := "<ir." ++ operand.className ++ " "
  match operand, world.operandName? operand with
  | .parameter _ name type, _ =>
      return head ++ Text.quoted name ++ " of type " ++ type.text ++ ">"
  | .result routine name type _, _ =>
      let operation := ((world.instruction? routine name).map
        fun found => found.2.operation).getD .retVoid
      return head ++ Text.quoted name ++ " of type '" ++ type.text ++ "', opname " ++
        Text.quoted operation.mnemonic ++ ", operands " ++
        (← wording.quoted operation.operandRow) ++ ">"
  | operand, some name =>
      return head ++ (← wording.quoted name) ++ " of type '" ++ operand.type.text ++ "'>"
  | operand, none =>
      return head ++ "type='" ++ operand.type.text ++ "' value=" ++
        (← wording.quoted (← wording.contentOf operand)) ++ ">"

/-- An operand as its plain text: what is named stands as it is written in its module. -/
def plainOperand (operand : Operand) : Build String := do
  match operand with
  | .global symbol _ => wording.globalText symbol
  | .routine symbol _ => wording.routineText symbol
  | .block place => wording.wholeBlock place
  | .result routine name _ _ =>
      match (← get).instruction? routine name with
      | some (_, instruction) => wording.instructionText instruction
      | none => wording.describe operand
  | .globalAs .. | .sizeOf _ => wording.reference operand
  | operand => wording.describe operand

/-! ## Descriptions -/

/-- The text of a value as messages quote it. -/
def quotedText (value : Value) : Build String := do
  match value with
  | .none => return "None"
  | .truth value => return if value then "True" else "False"
  | .integer value => return toString value
  | .real value => return value.text
  | .text content => return Text.quoted content
  | .bytes content isMutable => return quotedBytes content isMutable
  | .list items => wording.quotedRow "[" "]" items
  | .liveRow row => wording.quotedRow "[" "]" ((← get).rowItems row)
  | .tuple [item] => wording.quotedRow "(" ",)" [item]
  | .tuple items => wording.quotedRow "(" ")" items
  | .dictionary entries => wording.quotedEntries entries
  | .liveIndex (.symbols place) =>
      wording.quotedEntries ((← get).indexEntries (.symbols place))
  | .liveIndex (.globals place) =>
      wording.quotedIndex value.className ((← get).indexEntries (.globals place))
  | .type known => return quotedType known
  | .operand known => wording.quotedOperand known
  | .variadicMark => return "VARARGS"
  | .visibility known => return known.quoted
  | .policy known => return known.quoted
  | .symbolKind known => return known.quoted
  | .foreign .set => return "set()"
  | .foreign .complex => return "1j"
  | .foreign known => return "<" ++ known.className ++ ">"
  | .repetition .. | .object _ => return "<" ++ value.className ++ ">"
  | .function reference => wording.describeFunction reference
  | .fragment place => wording.describeFragment ((← get).fragment place)
  | .generator place => wording.describeGenerator ((← get).generator place)
  | .library place => return ((← get).library place).describe
  | .module place => wording.moduleText place
  | .report _ => return "<Reporter>"
  | .diagnostic known =>
      wording.quotedFields "Diagnostic"
        [("kind", .text known.kind), ("code", .text known.code), ("message", .text known.message),
          ("source", known.sourceValue)]
  | .registry place => return describeRegistry ((← get).registryNames place)
  | .program name place => wording.describeProgram name ((← get).registryNames place)
  | .table place => wording.describeTable ((← get).table place)
  | .symbolInfo info =>
      wording.quotedFields "SymbolInfo"
        [("name", info.name), ("ir_name", info.symbolName), ("symbol_type", info.kind),
          ("is_declaration", info.isDeclaration), ("linkage", info.linkage),
          ("library_name", info.libraryName), ("ir_type", info.typeText)]
  | .resolution kind target =>
      wording.quotedFields "Resolution" [("kind", .symbolKind kind), ("target", target)]
  | .callback _ => return "<function>"
  | .method receiver name =>
      return "<bound method " ++ receiver.methodTitle name ++ " of " ++
        (← wording.quoted receiver) ++ ">"

/-- The plain text of a value. -/
def plainText (value : Value) : Build String := do
  match value with
  | .text content => return content
  | .visibility known => return (Phrase.visibility known).plain
  | .policy known => return (Phrase.policy known).plain
  | .symbolKind known => return known.plain
  | .type known => return known.text
  | .operand known => wording.plainOperand known
  | value => wording.quotedText value

end Wording

namespace Wording

/-- The wording that describes values inside of each other up to a depth. -/
def ofDepth : (depth : Nat) → Wording
  | 0 => ⟨fun _ => throw .tooDeep, fun _ => throw .tooDeep⟩
  | depth + 1 =>
      let inner := ofDepth depth
      ⟨inner.plainText, inner.quotedText⟩

/-- How deep descriptions go. -/
def maximalDepth : Nat := 1000

/-- The wording of all messages and modules. -/
def standard : Wording :=
  ofDepth maximalDepth

end Wording

namespace Build

/-- The plain text of a value. -/
def plain (value : Value) : Build String :=
  Wording.standard.plain value

/-- The text of a value as messages quote it. -/
def quoted (value : Value) : Build String :=
  Wording.standard.quoted value

/-- The type and text of an operand. -/
def describe (operand : Operand) : Build String :=
  Wording.standard.describe operand

/-- The text of the module of a library. -/
def printModule (place : LibraryId) : Build String :=
  Wording.standard.moduleText place

end Build

end StructuredIR
