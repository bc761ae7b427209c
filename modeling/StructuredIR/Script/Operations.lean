import StructuredIR.Generator.Aggregates
import StructuredIR.Generator.Arithmetic
import StructuredIR.Generator.Calls
import StructuredIR.Generator.Returns
import StructuredIR.Library.Declaration
import StructuredIR.Library.Import
import StructuredIR.Library.Visibility
import StructuredIR.Program
import StructuredIR.Script.Call

/-! # Operations by name

The operations that scripts know by their names, for each kind of value that has operations, and
those that need no such value. -/

namespace StructuredIR

namespace Script

/-- A function as the result of an operation. -/
def functionResult (action : Build FunctionRef) : Build Value := do
  return .function (← action)

/-- A global of a library as the result of an operation. -/
def globalResult (place : LibraryId) (action : Build GlobalEntry) : Build Value := do
  let entry ← action
  return .operand (Library.globalOperand (← get) place entry)

/-- An operation that gives nothing. -/
def noResult (action : Build Unit) : Build Value := do
  action
  return .none

/-! ## Generators -/

/-- The operations of generators on numbers. -/
def onNumbers? (call : Call) (place : GeneratorId) : String → Option (Build Value)
  | "add" => some (Generator.sum place (call.value 0 "lhs") (call.value 1 "rhs"))
  | "sub" => some (Generator.difference place (call.value 0 "lhs") (call.value 1 "rhs"))
  | "mul" => some (Generator.product place (call.value 0 "lhs") (call.value 1 "rhs"))
  | "div" =>
      some do
        Generator.divide place .div (call.value 0 "dividend") (call.value 1 "divisor")
          (← call.flag 2 "signed" true)
  | "rem" =>
      some do
        Generator.divide place .rem (call.value 0 "dividend") (call.value 1 "divisor")
          (← call.flag 2 "signed" true)
  | "neg" => some (Generator.negation place (call.value 0 "num"))
  | "inc" =>
      some (Generator.change place "inc" .add (call.value 0 "ptr")
        (call.valueOr 1 "amount" (.integer 1)))
  | "dec" =>
      some (Generator.change place "dec" .sub (call.value 0 "ptr")
        (call.valueOr 1 "amount" (.integer 1)))
  | "shl" => some (Generator.shift place .shl (call.value 0 "num") (call.value 1 "bits"))
  | "ashr" => some (Generator.shift place .ashr (call.value 0 "num") (call.value 1 "bits"))
  | "lshr" => some (Generator.shift place .lshr (call.value 0 "num") (call.value 1 "bits"))
  | "invert" => some (Generator.complement place (call.value 0 "num"))
  | "is_null" => some (Generator.compareNull place "is_null" .eq (call.value 0 "value"))
  | "is_not_null" => some (Generator.compareNull place "is_not_null" .ne (call.value 0 "value"))
  | "opr" =>
      some (Generator.operate place (call.value 0 "op") (call.value 1 "lhs") (call.value 2 "rhs"))
  | _ => none

/-- The operations of generators that convert. -/
def onTypes? (call : Call) (place : GeneratorId) : String → Option (Build Value)
  | "convert" => some do
      return .operand
        (← Coercion.coerceAs (some (← Generator.library place)) (call.value 0 "value")
          (call.value 1 "type_"))
  | "bitcast" => some (Generator.bitcast place (call.value 0 "value") (call.value 1 "type_"))
  | "trunc" =>
      some (Generator.resize place "trunc" .trunc .fptrunc (call.value 0 "num")
        (call.value 1 "type_"))
  | "sext" =>
      some (Generator.resize place "sext" .sext .fpext (call.value 0 "num") (call.value 1 "type_"))
  | "zext" =>
      some (Generator.resize place "zext" .zext .fpext (call.value 0 "num") (call.value 1 "type_"))
  | "ftoi" =>
      some do
        Generator.toInteger place (call.value 0 "num") (call.value 1 "type_")
          (← call.flag 2 "signed" true)
  | "itof" =>
      some do
        Generator.toFloat place (call.value 0 "num") (call.value 1 "type_")
          (← call.flag 2 "signed" true)
  | "cast" => some (Generator.cast place (call.value 0 "value") (call.value 1 "type_"))
  | _ => none

/-- The operations of generators on memory and aggregates. -/
def onMemory? (call : Call) (place : GeneratorId) : String → Option (Build Value)
  | "alloca" => some (Generator.allocate place (call.value 0 "type_") (call.value 1 "size"))
  | "malloc" => some (Generator.allocateOnHeap place (call.value 0 "type_") (call.value 1 "size"))
  | "free" => some (Generator.release place (call.value 0 "ptr"))
  | "load" => some (Generator.load place (call.value 0 "ptr"))
  | "store" => some (Generator.store place (call.value 0 "value") (call.value 1 "ptr"))
  | "gep" => some (Generator.address place (call.value 0 "ptr") (call.rest 1))
  | "gev" => some (Generator.loadElement place (call.value 0 "ptr") (call.rest 1))
  | "sep" => some (Generator.storeElement place (call.value 0 "ptr") (call.rest 1))
  | "insert" =>
      some (Generator.insert place (call.value 0 "collection") (call.value 1 "element")
        (call.value 2 "index"))
  | "extract" =>
      some (Generator.extract place (call.value 0 "collection") (call.value 1 "index"))
  | _ => none

/-- The operations of generators on blocks. -/
def onBlocks? (call : Call) (place : GeneratorId) : String → Option (Build Value)
  | "finish" => some (noResult (Generator.finish place))
  | "position_at_end" => some (noResult (Generator.moveTo place (call.value 0 "block")))
  | "child" => some do return .generator (← Generator.child place (call.value 0 "block"))
  | "block" =>
      some (Generator.openBlock place (call.valueOr 0 "name" (.text "block"))
        (call.callback? 1 "body"))
  | "br" => some (Generator.branch place (call.value 0 "block"))
  | "brk" => some (Generator.leaveLoop place)
  | "cont" => some (Generator.nextTurn place)
  | "cond" =>
      some (Generator.conditional place (call.value 0 "condition") (call.callback? 1 "then_body")
        (call.callback? 2 "else_body") (call.value 3 "exit_block"))
  | "lp" =>
      let parts : Generator.LoopParts :=
        { compare := call.callback? 1 "compare"
          increment := call.callback? 2 "increment"
          body := call.callback? 4 "body" }
      some (Generator.loop place (call.value 0 "variables") parts (call.value 3 "exit_block"))
  | _ => none

/-- The operations of generators that call, look up and return. -/
def onFunctions? (call : Call) (place : GeneratorId) : String → Option (Build Value)
  | "call" =>
      some (Generator.call call.interpret place (call.value 0 "callable_") (call.rest 1))
  | "global_" => some (Generator.lookUpGlobal place (call.value 0 "name"))
  | "ret" => some (Generator.returnShared place (call.value 0 "value"))
  | "cret" =>
      some (Generator.returnIf place (call.value 0 "condition") (call.value 1 "value")
        (call.value 2 "continuation"))
  | "sret" => some (Generator.returnDirectly place (call.value 0 "value"))
  | "pret" => some (Generator.presetReturn place (call.value 0 "value"))
  | _ => none

/-- The operations of generators. -/
def onGenerator? (call : Call) (place : GeneratorId) (verb : String) : Option (Build Value) :=
  onNumbers? call place verb <|> onTypes? call place verb <|> onMemory? call place verb <|>
    onBlocks? call place verb <|> onFunctions? call place verb

/-! ## Libraries -/

/-- The operations of libraries that declare. -/
def onDeclarations? (call : Call) (place : LibraryId) : String → Option (Build Value)
  | "function" => some (functionResult do
      Library.define place (call.value 0 "name") (call.valueOr 1 "arg_types" (.tuple []))
        (call.valueOr 2 "return_type" (.type .void)) (call.callback? 3 "body"))
  | "extern" => some (functionResult do
      Library.declareExternal place (call.value 0 "name")
        (call.valueOr 1 "arg_types" (.tuple [])) (call.valueOr 2 "return_type" (.type .void)))
  | "macro" => some do
      return .fragment
        (← Library.declareFragment place (call.value 0 "name") (call.value 1 "body"))
  | "global_" => some (globalResult place do
      Library.declareGlobal place (call.value 0 "name") (call.value 1 "value_or_type"))
  | "constant" => some (globalResult place do
      Library.declareConstant place (call.value 0 "name") (call.value 1 "value"))
  | "string" => some do
      let name ← call.name 0 "text"
      let symbol ← Build.internString place (← Build.present name.shown.phrase?)
      return .operand ((← get).globalOperand symbol)
  | "build" => some do
      let _ ← (call.interpret (call.value 0 "body")).run [.library place]
      return .library place
  | "import_" => some (noResult (Library.importFrom place (call.value 0 "source")))
  | _ => none

/-- The operations of libraries on visibilities. -/
def onVisibility? (call : Call) (place : LibraryId) : String → Option (Build Value)
  | "set_visibility" =>
      some (noResult (Library.setVisibility place (call.value 0 "visibility")
        (call.value 1 "symbol") (call.callback? 2 "body")))
  | "public" => some (noResult (Library.relinkAll place .isPublic (call.rest 0)))
  | "private" => some (noResult (Library.relinkAll place .isPrivate (call.rest 0)))
  | _ => none

/-- The operations of libraries that tell what is declared. -/
def onDeclared? (call : Call) (place : LibraryId) : String → Option (Build Value)
  | "ir_name" => some do Library.symbolName ((← get).library place) (call.value 0 "name")
  | "functions" => some do
      return Library.functionValues (← get) place (← call.flag 0 "include_private" false)
  | "macros" => some do
      return Library.fragmentValues (← get) place (← call.flag 0 "include_private" false)
  | "globals" => some do
      return Library.globalValues (← get) place (← call.flag 0 "include_private" false)
  | "strings" => some do return Library.stringValues (← get) place
  | "resolve" => some do
      let name ← call.name 0 "name"
      let includePrivate ← call.flag 1 "include_private" true
      return (Library.resolve (← get) place name.key includePrivate).value
  | "symbol_table" => some do
      let table := (← get).tables.length
      modify fun world =>
        { world with tables := world.tables ++ [Library.symbolTable world place] }
      return .table table
  | "callee" => some do
      match call.value 0 "function" with
      | .function function =>
          let symbol ← Function.callee place function
          return .operand ((← get).routineOperand symbol)
      | _ => throw .missingAttribute
  | "dump" => some (noResult do
      if ← call.flag 0 "stream" false then throw .missingAttribute
      let text ← Build.printModule place
      modify (·.write (text ++ "\n")))
  | _ => none

/-- The operations of libraries. -/
def onLibrary? (call : Call) (place : LibraryId) (verb : String) : Option (Build Value) :=
  onDeclarations? call place verb <|> onVisibility? call place verb <|>
    onDeclared? call place verb

/-! ## Functions and fragments -/

/-- The operations of functions. -/
def onFunction? (call : Call) (reference : FunctionRef) : String → Option (Build Value)
  | "relink" => some do
      return .truth (← Function.relink reference (call.value 0 "visibility"))
  | "append_block" => some do
      return .operand (.block (← Function.appendBlock reference (call.value 0 "name")))
  | "move_after" =>
      some (noResult (Function.moveAfter reference (call.value 0 "block")
        (call.value 1 "anchor")))
  | "setup_return" => some do return .operand (.block (← Function.setUpReturn reference))
  | "generator" => some do return .generator (← Generator.atEntry reference)
  | _ => none

/-- The operations of fragments. -/
def onFragment? (call : Call) (place : FragmentId) : String → Option (Build Value)
  | "relink" => some do
      modify (·.changeFragment place fun fragment =>
        { fragment with visibility := call.value 0 "visibility" })
      return .truth true
  | "expand" =>
      some (Generator.expand call.interpret place (call.value 0 "generator") (call.rest 1))
  | "copy" => some do
      return .fragment
        (← Library.addFragment { (← get).fragment place with name := call.value 0 "name" })
  | _ => none

/-! ## Registries, programs and symbol tables -/

/-- A library as a value, if there is one. -/
def libraryValue : Option LibraryId → Value
  | some place => .library place
  | none => .none

/-- The operations of registries. -/
def onRegistry? (call : Call) (place : RegistryId) : String → Option (Build Value)
  | "register" => some do
      match call.value 0 "library" with
      | .library library =>
          Registry.register place library
          return .library library
      | _ => throw .missingAttribute
  | "unregister" => some do
      return libraryValue (← Registry.unregister place (← call.name 0 "name").key)
  | "get" => some do
      let name ← call.name 0 "name"
      return libraryValue (Registry.find? (← get) place name.key)
  | "names" => some do
      return .list (((← get).registryNames place).map Phrase.value)
  | _ => none

/-- A new library with the arguments of a call. -/
def createLibrary (call : Call) (registry : Value) : Build Value := do
  return .library
    (← Library.create (call.valueOr 0 "name" (.text ""))
      ((call.named? "visibility").getD (.text Visibility.isPublic.text))
      ((call.named? "prefix").getD (.text NamePolicy.smart.text)) registry
      ((call.named? "echo").getD (.truth true)) (call.namedCallback? "body"))

/-- The operations of programs. -/
def onProgram? (call : Call) (registry : RegistryId) : String → Option (Build Value)
  | "library" => some (createLibrary call (.registry registry))
  | "symbols" => some do
      return .dictionary ((Program.symbols (← get) registry).entries.map fun entry =>
        (entry.shown, .symbolInfo entry.info))
  | "emit" => some (Program.emit registry)
  | _ => none

/-- Whether a symbol is described as defined. -/
def isDefinition (world : World) (info : SymbolInfo) : Bool :=
  !world.isTruthy info.isDeclaration

/-- The symbols of a table that are definitions, or that are not. -/
def symbolsWhere (world : World) (place : TableId) (defined : Bool) : Value :=
  let infos := (world.table place).symbols.entries.map SymbolEntry.info
  .list ((infos.filter fun info => isDefinition world info == defined).map .symbolInfo)

/-- What a table says about the symbol of a name. -/
def infoOf? (place : TableId) (name : Value) : Build (Option SymbolInfo) := do
  let name ← Build.nameOf name
  return (((← get).table place).symbols.get? name.key).map SymbolEntry.info

/-- The operations of symbol tables. -/
def onTable? (call : Call) (place : TableId) : String → Option (Build Value)
  | "add_symbol" => some (noResult do
      match call.value 0 "symbol" with
      | .symbolInfo info =>
          let name ← Build.nameOf info.symbolName
          modify (·.changeTable place (Library.enterSymbol · name.key info))
      | _ => throw .missingAttribute)
  | "get_symbol" => some do
      match ← infoOf? place (call.value 0 "ir_name") with
      | some info => return .symbolInfo info
      | none => return .none
  | "has_definition" => some do
      let info? ← infoOf? place (call.value 0 "ir_name")
      return .truth (info?.any (isDefinition (← get)))
  | "get_definitions" => some do return symbolsWhere (← get) place true
  | "get_declarations" => some do return symbolsWhere (← get) place false
  | _ => none

/-- The operations of symbol descriptions. -/
def onSymbolInfo? (info : SymbolInfo) : String → Option (Build Value)
  | "is_definition" => some do return .truth (isDefinition (← get) info)
  | "is_external_linkage" =>
      some (pure (.truth (info.linkage.text? == some Visibility.isPublic.linkage)))
  | _ => none

/-! ## Reports -/

/-- The diagnostics that an argument gives, or all of a report. -/
def diagnosticsOf (report : Report) (items : Value) : Build (List Diagnostic) := do
  match items with
  | .none => return report.items
  | items =>
      match (← get).items? items with
      | none => throw (.notIterable items.className)
      | some items =>
          items.mapM fun item => do
            match item with
            | .diagnostic known => return known
            | _ => throw .missingAttribute

/-- The text of a report, with the diagnostics that an argument gives. -/
def formatReport (report : Report) (color : Bool) (items : Value) : Build String := do
  return (report.showing (← diagnosticsOf report items)).format color

/-- The operations of the reports of libraries. -/
def onReport? (call : Call) (place : LibraryId) : String → Option (Build Value)
  | "warn" => some (noResult do
      let code ← Build.plain (call.value 0 "code")
      let message ← Build.present (call.value 1 "msg").phrase?
      Build.warnOf place code message.plain)
  | "codes" => some do
      return .list (((← get).library place).report.codes.map .text)
  | "format" => some do
      let color ← call.flag 0 "use_color" true
      let report := ((← get).library place).report
      return .text (← formatReport report color (call.value 1 "items"))
  | "print" => some (noResult do
      let color ← call.flag 1 "use_color" false
      let report := ((← get).library place).report
      let text ← formatReport report color (call.value 2 "items")
      if text != "" then
        if ← call.flag 0 "stream" false then throw .missingAttribute
        modify (·.write (text ++ "\n")))
  | _ => none

/-! ## Types -/

/-- The operations of types. -/
def onType? (type : IRType) : String → Option (Build Value)
  | "as_pointer" => some do
      match type.address? with
      | some address => return .type address
      | none => throw .failedCheck
  | _ => none

/-! ## Without a target -/

/-- The constructors of things. -/
def construct? (call : Call) : String → Option (Build Value)
  | "Program" => some do
      return .program (call.valueOr 0 "name" (.text "program")) (← Registry.create)
  | "Library" => some (createLibrary call ((call.named? "registry").getD .none))
  | "LibraryRegistry" => some do return .registry (← Registry.create)
  | "SymbolTable" => some do
      let place := (← get).tables.length
      let libraryName := call.value 0 "library_name"
      modify fun world => { world with tables := world.tables ++ [⟨libraryName, []⟩] }
      return .table place
  | "SymbolInfo" =>
      some (pure (.symbolInfo
        { name := call.value 0 "name"
          symbolName := call.value 1 "ir_name"
          kind := call.value 2 "symbol_type"
          isDeclaration := call.value 3 "is_declaration"
          linkage := call.value 4 "linkage"
          libraryName := call.value 5 "library_name"
          typeText := call.value 6 "ir_type" }))
  | "Macro" => some do
      return .fragment
        (← Library.addFragment ⟨call.value 0 "name", call.value 1 "body",
          call.valueOr 2 "visibility" (.visibility .isPublic)⟩)
  | _ => none

/-- The operation of a name on a value. -/
def onTarget? (call : Call) (target : Value) (verb : String) : Option (Build Value) :=
  match target with
  | .generator place => onGenerator? call place verb
  | .library place => onLibrary? call place verb
  | .function reference => onFunction? call reference verb
  | .fragment place => onFragment? call place verb
  | .registry place => onRegistry? call place verb
  | .program _ registry => onProgram? call registry verb
  | .table place => onTable? call place verb
  | .symbolInfo info => onSymbolInfo? info verb
  | .report place => onReport? call place verb
  | .type known => onType? known verb
  | _ => none

end Script

end StructuredIR
