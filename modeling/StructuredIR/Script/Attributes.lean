import StructuredIR.Description
import StructuredIR.Function.Basic
import StructuredIR.Generator.Basic
import StructuredIR.Program

/-! # Attributes

What scripts can ask of a value by name. Asking a generator for its return block sets that block
up. A value also has its methods, which can be called later. -/

namespace StructuredIR

namespace Script

/-- A block as a value, if there is one. -/
def blockOrNone : Option BlockRef → Value
  | some place => .operand (.block place)
  | none => .none

/-- An operand as a value, if there is one. -/
def operandOrNone : Option Operand → Value
  | some operand => .operand operand
  | none => .none

/-- A number as a value, if there is one. -/
def numberOrNone : Option Nat → Value
  | some number => .integer number
  | none => .none

/-! ## Functions and generators -/

/-- The parameters of a function as a value. -/
def parametersValue (world : World) (reference : FunctionRef) : Value :=
  .list ((world.parameters (world.functionSymbol reference)).map .operand)

/-- The attributes of generators. -/
def generatorAttribute? (world : World) (place : GeneratorId) (name : String) :
    Option (Build Value) :=
  let generator := world.generator place
  match name with
  | "library" => some (pure (.library generator.function.owner))
  | "function" => some (pure (.function generator.function))
  | "basic_block" => some (pure generator.block)
  | "start_block" => some (pure generator.start)
  | "loop_block" => some (pure generator.loopBlock)
  | "loop_exit" => some (pure generator.loopExit)
  | "finished" => some (pure (.truth generator.isFinished))
  | "args" => some (pure (parametersValue world generator.function))
  | "return_block" => some do
      return .operand (.block (← Function.setUpReturn generator.function))
  | "builder" => some do
      let _ ← Generator.position place
      return .foreign .position
  | _ => none

/-- Whether a function with a result of some type yields nothing; of types with elements nothing
is said. -/
def yieldsNothing (result : IRType) : Value :=
  if Operand.hasElements result then .none else .truth (result = .void)

/-- The attributes of functions. -/
def functionAttribute? (world : World) (reference : FunctionRef) (name : String) :
    Option (Build Value) :=
  let function := world.function reference
  let symbol := world.functionSymbol reference
  let routine := world.routine symbol
  match name with
  | "library" => some (pure (.library reference.owner))
  | "name" => some (pure function.name)
  | "ir" => some (pure (.operand (world.routineOperand symbol)))
  | "entry_block" => some (pure (blockOrNone function.entry))
  | "return_block" => some (pure (blockOrNone function.exit))
  | "return_slot" => some (pure (operandOrNone function.slot))
  | "visibility" => some (pure function.visibility)
  | "ir_name" => some (pure (world.symbolName symbol))
  | "function_type" => some (pure (.type routine.signature))
  | "arg_types" => some (pure (.list (routine.parameterTypes.map .type)))
  | "return_type" => some (pure (.type routine.result))
  | "varargs" => some (pure (.truth routine.isVariadic))
  | "args" => some (pure (parametersValue world reference))
  | "is_void" => some (pure (yieldsNothing routine.result))
  | "is_declaration" => some (pure (.truth function.isDeclaration))
  | "linkage" => some do return .text (← world.linkage reference)
  | "blocks" => some (pure (.liveRow (.blocks symbol)))
  | _ => none

/-- The attributes of fragments. -/
def fragmentAttribute? (fragment : Fragment) : String → Option Value
  | "name" => some fragment.name
  | "body" => some fragment.body
  | "visibility" => some fragment.visibility
  | "arity" => some (numberOrNone fragment.body.fragmentArity?)
  | _ => none

/-! ## Libraries -/

/-- The registry of a library as a value. -/
def registryValue : Option RegistryId → Value
  | some place => .registry place
  | none => .none

/-- The attributes of libraries. -/
def libraryAttribute? (world : World) (place : LibraryId) (name : String) : Option Value :=
  let library := world.library place
  match name with
  | "name" => some library.name.value
  | "prefix" => some (.policy library.policy)
  | "default_visibility" => some (.visibility library.visibility)
  | "registry" => some (registryValue library.registry)
  | "module" => some (.module place)
  | "reporter" => some (.report place)
  | _ => none

/-- The routines of the module of a library. -/
def routineValues (world : World) (place : LibraryId) : List Value :=
  (world.moduleSymbols place).filterMap fun entry =>
    match entry.2 with
    | .routine .. => some (.operand entry.2)
    | _ => none

/-- The attributes of modules. -/
def moduleAttribute? (world : World) (place : LibraryId) : String → Option Value
  | "name" => some (world.library place).module.name.value
  | "triple" => some (.text Module.triple)
  | "data_layout" => some (.text Module.dataLayout)
  | "globals" => some (.liveIndex (.globals place))
  | "functions" => some (.list (routineValues world place))
  | _ => none

/-- The attributes of reports. -/
def reportAttribute? (world : World) (place : LibraryId) : String → Option Value
  | "source" => some (world.library place).report.source.value
  | "echo" => some (world.library place).echo
  | "items" => some (.liveRow (.diagnostics place))
  | _ => none

/-- The attributes of diagnostics. -/
def diagnosticAttribute? (known : Diagnostic) : String → Option Value
  | "kind" => some (.text known.kind)
  | "code" => some (.text known.code)
  | "message" => some (.text known.message)
  | "source" => some known.sourceValue
  | _ => none

/-- The attributes of programs. -/
def programAttribute? (world : World) (programName : Value) (registry : RegistryId) :
    String → Option Value
  | "name" => some programName
  | "registry" => some (.registry registry)
  | "libraries" => some (.list ((Program.libraries world registry).map .library))
  | _ => none

/-! ## Symbol descriptions -/

/-- The attributes of symbol descriptions. -/
def symbolInfoAttribute? (info : SymbolInfo) : String → Option Value
  | "name" => some info.name
  | "ir_name" => some info.symbolName
  | "symbol_type" => some info.kind
  | "is_declaration" => some info.isDeclaration
  | "linkage" => some info.linkage
  | "library_name" => some info.libraryName
  | "ir_type" => some info.typeText
  | _ => none

/-- The attributes of symbol tables. -/
def tableAttribute? (world : World) (place : TableId) : String → Option Value
  | "library_name" => some (world.table place).libraryName
  | "symbols" => some (.liveIndex (.symbols place))
  | _ => none

/-- The attributes of what names resolve to. -/
def resolutionAttribute? (kind : SymbolKind) (target : Value) : String → Option Value
  | "kind" => some (.symbolKind kind)
  | "target" => some target
  | "found" => some (.truth (kind != .notFound))
  | _ => none

/-- The attributes of the words of fixed choices. -/
def wordAttribute? (text memberName : String) : String → Option Value
  | "value" => some (.text text)
  | "name" => some (.text memberName)
  | _ => none

/-- The attributes of visibilities. -/
def visibilityAttribute? (known : Visibility) : String → Option Value
  | "linkage" => some (.text known.linkage)
  | name => wordAttribute? known.text known.memberName name

/-! ## Types -/

/-- The short name of a type in the names of routines that exist for many types. -/
def shortTypeName? : IRType → Option String
  | .int width => some s!"i{width}"
  | .half => some "f16"
  | .float => some "f32"
  | .double => some "f64"
  | .pointer target => (shortTypeName? target).map fun name => "p0" ++ name
  | _ => none

/-- The attributes of types. -/
def typeAttribute? (type : IRType) (name : String) : Option Value :=
  match name, type with
  | "width", .int width => some (.integer width)
  | "element", .array _ element | "element", .vector _ element => some (.type element)
  | "count", .array size _ | "count", .vector size _ => some (.integer size)
  | "elements", .array size element => some (.repetition size element)
  | "elements", .vector size element => some (.list (List.replicate size (.type element)))
  | "elements", .struct fields => some (.tuple (fields.map .type))
  | "packed", .struct _ => some (.truth false)
  | "pointee", .pointer target => some (.type target)
  | "addrspace", .pointer _ => some (.integer 0)
  | "is_opaque", .pointer _ => some (.truth false)
  | "is_pointer", type => some (.truth type.isPointer)
  | "intrinsic_name", type => (shortTypeName? type).map .text
  | "return_type", .function result _ _ => some (.type result)
  | "args", .function _ parameters _ => some (.tuple (parameters.map .type))
  | "var_arg", .function _ _ isVariadic => some (.truth isVariadic)
  | "null", type => some (.text (Operand.absentText type))
  | _, _ => none

/-! ## Operands -/

/-- The linkage of a symbol as its module has it. -/
def symbolLinkage (isPrivate : Bool) : Value :=
  .text (if isPrivate then "private" else "")

/-- The attributes of globals of modules. -/
def globalAttribute? (world : World) (symbol : SymbolRef) (name : String) : Option Value :=
  let global := (world.global? symbol).getD default
  match name with
  | "value_type" => some (.type global.valueType)
  | "initializer" => some (operandOrNone global.initial)
  | "global_constant" => some (.truth global.isConstant)
  | "unnamed_addr" => some (.truth global.isUnnamed)
  | "linkage" => some (symbolLinkage global.isPrivate)
  | "addrspace" => some (.integer 0)
  | "align" => some .none
  | "parent" => some (.module symbol.owner)
  | _ => none

/-- The attributes of routines. -/
def routineAttribute? (world : World) (symbol : SymbolRef) (name : String) : Option Value :=
  let routine := world.routine symbol
  match name with
  | "ftype" => some (.type routine.signature)
  | "args" => some (.tuple ((world.parameters symbol).map .operand))
  | "blocks" | "basic_blocks" => some (.liveRow (.blocks symbol))
  | "is_declaration" => some (.truth routine.order.isEmpty)
  | "linkage" => some (symbolLinkage routine.isPrivate)
  | "calling_convention" => some (.text "")
  | "parent" | "module" => some (.module symbol.owner)
  | _ => none

/-- The result of the instruction that ends a block, if it has ended. -/
def terminatorValue (place : BlockRef) (block : Block) : Value :=
  operandOrNone ((block.instructions.find? fun instruction =>
    instruction.operation.isTerminator).map fun instruction => instruction.result place.routine)

/-- The attributes of blocks. -/
def blockAttribute? (world : World) (place : BlockRef) (name : String) : Option Value :=
  let block := world.block place
  match name with
  | "instructions" => some (.liveRow (.instructions place))
  | "terminator" => some (terminatorValue place block)
  | "is_terminated" => some (.truth block.isTerminated)
  | "function" | "parent" => some (.operand (world.routineOperand place.routine))
  | "module" => some (.module place.routine.owner)
  | _ => none

/-- The attributes that depend on what an instruction does. -/
def operationAttribute? (operation : Operation) (name : String) : Option Value :=
  match name, operation with
  | "op", .compareInt predicate .. => some (.text predicate.text)
  | "op", .compareFloat predicate .. => some (.text predicate.text)
  | "allocated_type", .alloca allocated _ => some (.type allocated)
  | "align", .alloca .. | "align", .load _ | "align", .store .. => some .none
  | "pointer", .elementAddress pointer _ => some (.operand pointer)
  | "indices", .elementAddress _ indices => some (.list (indices.map .operand))
  | "inbounds", .elementAddress .. => some (.truth false)
  | "aggregate", .extractValue aggregate _ => some (.operand aggregate)
  | "aggregate", .insertValue aggregate _ _ => some (.operand aggregate)
  | "value", .insertValue _ element _ => some (.operand element)
  | "indices", .extractValue _ index => some (.list [.integer index])
  | "indices", .insertValue _ _ index => some (.list [.integer index])
  | "callee", .call callee _ | "called_function", .call callee _ => some (.operand callee)
  | "args", .call _ arguments => some (.list (arguments.map .operand))
  | "return_value", .ret value => some (.operand value)
  | "return_value", .retVoid => some .none
  | "opname", operation => some (.text operation.mnemonic)
  | "operands", operation => some operation.operandRow
  | "flags", _ => some (.list [])
  | "metadata", _ => some (.dictionary [])
  | _, _ => none

/-- The attributes of the results of instructions. -/
def resultAttribute? (world : World) (symbol : SymbolRef) (resultName name : String) :
    Option Value :=
  match name, world.instruction? symbol resultName with
  | "function", _ => some (.operand (world.routineOperand symbol))
  | "module", _ => some (.module symbol.owner)
  | "parent", some (place, _) => some (.operand (.block place))
  | name, some (_, instruction) => operationAttribute? instruction.operation name
  | _, none => none

/-- The function type that a named operand is or points to. -/
def functionTypeOf (operand : Operand) : Except Fault Value :=
  match operand.type with
  | .function result parameters isVariadic | .pointer (.function result parameters isVariadic) =>
      .ok (.type (.function result parameters isVariadic))
  | type => .error (.notFunction type)

/-- The attributes of all symbols of modules. -/
def symbolAttribute? : String → Option Value
  | "storage_class" | "section" => some (.text "")
  | "metadata" => some (.dictionary [])
  | _ => none

/-- The attributes that only some operands have. -/
def properAttribute? (world : World) (operand : Operand) (name : String) : Option Value :=
  match operand with
  | .global symbol _ => globalAttribute? world symbol name <|> symbolAttribute? name
  | .routine symbol _ => routineAttribute? world symbol name <|> symbolAttribute? name
  | .block place => blockAttribute? world place name
  | .result symbol resultName _ _ => resultAttribute? world symbol resultName name
  | .parameter symbol _ _ =>
      if name = "parent" then some (.operand (world.routineOperand symbol)) else none
  | _ => none

/-- The attributes of operands. -/
def operandAttribute? (world : World) (operand : Operand) (name : String) :
    Option (Build Value) :=
  match name with
  | "type" => some (pure (.type operand.type))
  | "name_prefix" => some (pure (.text (if operand.isSymbol then "@" else "%")))
  | "deduplicate_name" => some (pure (.truth !operand.isSymbol))
  | "name" => (world.operandName? operand).map pure
  | "constant" =>
      if operand.isConstant then some (Wording.standard.contentOf operand) else none
  | "function_type" =>
      if operand.isConstant then none else some do functionTypeOf operand
  | name => (properAttribute? world operand name).map pure

/-! ## Values -/

/-- The attribute of a name that a value has besides its methods. -/
def ownAttribute? (world : World) (value : Value) (name : String) : Option (Build Value) :=
  match value with
  | .generator place => generatorAttribute? world place name
  | .function reference => functionAttribute? world reference name
  | .operand operand => operandAttribute? world operand name
  | .library place => (libraryAttribute? world place name).map pure
  | .fragment place => (fragmentAttribute? (world.fragment place) name).map pure
  | .module place => (moduleAttribute? world place name).map pure
  | .report place => (reportAttribute? world place name).map pure
  | .diagnostic known => (diagnosticAttribute? known name).map pure
  | .program programName registry => (programAttribute? world programName registry name).map pure
  | .table place => (tableAttribute? world place name).map pure
  | .symbolInfo info => (symbolInfoAttribute? info name).map pure
  | .resolution kind target => (resolutionAttribute? kind target name).map pure
  | .visibility known => (visibilityAttribute? known name).map pure
  | .policy known => (wordAttribute? known.text known.memberName name).map pure
  | .symbolKind known => (wordAttribute? known.text known.memberName name).map pure
  | .type known => (typeAttribute? known name).map pure
  | _ => none

/-- The attribute of a name. -/
def attributeOf (value : Value) (name : String) : Build Value := do
  match ownAttribute? (← get) value name, value.methodSignature? name with
  | some own, _ => own
  | none, some _ => return .method value name
  | none, none => throw .missingAttribute

end Script

end StructuredIR
