import StructuredIR.Build
import StructuredIR.Text.Blank

/-! # The text of the assembly

Operands, instructions, routines and modules as they are written. A constant that was made from a
value of another kind is written as that value, so the text of a module depends on how all other
values are written. The text of a global, and of a constant that holds a value, is fixed the first
time that it is written; routines are written anew every time. -/

namespace StructuredIR

/-- How values are written inside of other text. -/
structure Wording where
  /-- The text of a value. -/
  plain : Value → Build String
  /-- The text of a value as messages quote it. -/
  quoted : Value → Build String

namespace Wording

/-! ## Names -/

/-- A name between double quotes. What is no text has to be something that can be searched for
the characters to escape. -/
def nameText (wording : Wording) (name : Value) : Build String :=
  match name, name.phrase? with
  | _, some phrase => pure (Text.quotedName phrase.plain)
  | .tuple _, none | .resolution .., none | .registry _, none | .type (.struct _), none => do
      return "\"" ++ (← wording.plain name) ++ "\""
  | .bytes .., none => throw .textForBytes
  | name, none => throw (.notContainer name.className)

/-- The text of a symbol of a module. -/
def symbolText (wording : Wording) (symbol : SymbolRef) : Build String := do
  return "@" ++ (← wording.nameText ((← get).symbolName symbol))

/-- The text of a block where it is referred to. -/
def blockText (wording : Wording) (place : BlockRef) : Build String := do
  return "%" ++ (← wording.nameText ((← get).block place).label)

/-- A label as it heads its block. -/
def labelHeader (label : Value) : Except Fault String :=
  match label, label.phrase? with
  | _, some phrase =>
      .ok ((if Text.isPlainLabel phrase.content then phrase.plain
        else Text.quotedName phrase.plain) ++ ":")
  | .bytes .., none => .error .bytesForText
  | label, none => .error (.notText label.className)

/-! ## Operands -/

/-- A row of bytes as messages quote it. -/
def quotedBytes (content : List UInt8) (isMutable : Bool) : String :=
  let text := Text.quotedBytes content
  if isMutable then "bytearray(" ++ text ++ ")" else text

/-- The floating-point number that a held value stands for. -/
def heldReal (content : Value) : Except Fault Double :=
  match content, content.phrase? with
  | _, some phrase =>
      match Number.readDouble? phrase.content with
      | some value => .ok value
      | none => .error (.malformedFloat phrase.quoted)
  | .bytes content isMutable, none => .error (.malformedFloat (quotedBytes content isMutable))
  | content, none => .error (.notReal content.className)

/-- The text of a constant of a type that was made from a value. -/
def heldText (wording : Wording) (type : IRType) (content : Value) : Build String := do
  match type with
  | .half | .float => throw .notPackable
  | .double => Operand.realText .double (← heldReal content)
  | type =>
      if Operand.hasElements type then
        match (← get).items? content with
        | some [] => return Operand.bracketed type []
        | some (_ :: _) => throw .missingAttribute
        | none => throw (.notIterable content.className)
      else wording.plain content

mutual

/-- The text by which an operand is referred to. -/
def reference (wording : Wording) : Operand → Build String
  | .absent type => pure (Operand.absentText type)
  | .undefined _ => pure "undef"
  | .truth type value => Operand.truthText type value
  | .integer type value => Operand.integerText type value
  | .real type value => Operand.numberText type value
  | .verbatim type content => Operand.verbatimText type content
  | .bytes _ content => pure ("c\"" ++ Text.escapedBytes content ++ "\"")
  | .aggregate type elements => do
      return Operand.bracketed type (← describeAll wording elements)
  | .repeated size element item => do
      let text := item.type.text ++ " " ++ (← reference wording item)
      return Operand.bracketed (.vector size element) (List.replicate size text)
  | .held type place _ => do
      let held ← Build.present ((← get).held[place]?)
      match held.text with
      | some text => return text
      | none =>
          let text ← heldText wording type held.content
          modify (·.keepText place text)
          return text
  | .global symbol _ | .routine symbol _ => symbolText wording symbol
  | .globalAs symbol valueType target => do
      return "bitcast (" ++ valueType.text ++ "* " ++ (← symbolText wording symbol) ++ " to " ++
        target.text ++ ")"
  | .sizeOf type =>
      let pointer := type.text ++ "*"
      pure s!"ptrtoint ({pointer} getelementptr ({type.text}, {pointer} null, i32 1) to i64)"
  | .parameter _ name _ | .result _ name _ _ => pure (Operand.localText name)
  | .block place => blockText wording place

/-- The types and texts of some operands. -/
def describeAll (wording : Wording) : List Operand → Build (List String)
  | [] => pure []
  | operand :: operands => do
      let text ← reference wording operand
      return (operand.type.text ++ " " ++ text) :: (← describeAll wording operands)

end

/-- The type and text of an operand. -/
def describe (wording : Wording) (operand : Operand) : Build String := do
  return operand.type.text ++ " " ++ (← reference wording operand)

/-! ## Instructions -/

/-- The types and texts of some operands with commas between them. -/
def listed (wording : Wording) (operands : List Operand) : Build String := do
  return ", ".intercalate (← describeAll wording operands)

/-- The type and text of what a branch leads to, which has to be an operand. -/
def targetText (wording : Wording) : Value → Build String
  | .operand target => describe wording target
  | _ => throw .missingAttribute

/-- A mnemonic, the type of two operands, and their texts. -/
def pairText (wording : Wording) (mnemonic : String) (left right : Operand) : Build String := do
  return mnemonic ++ " " ++ left.type.text ++ " " ++ (← reference wording left) ++ ", " ++
    (← reference wording right)

/-- The type that a call is written with: the whole signature if it is variadic. -/
def calledText (callee : Operand) : String :=
  match callee.type.signature? with
  | some (result, parameters, true) => (IRType.function result parameters true).text
  | some (result, _, false) => result.text
  | none => ""

/-- The type that an address leads to. -/
def pointedText (pointer : Operand) : String :=
  match pointer.type with
  | .pointer target => target.text
  | _ => ""

/-- The text of an operation. -/
def operationText (wording : Wording) : Operation → Build String
  | .binary operation left right => pairText wording operation.text left right
  | .compareInt predicate left right => pairText wording ("icmp " ++ predicate.text) left right
  | .compareFloat predicate left right => pairText wording ("fcmp " ++ predicate.text) left right
  | .cast operation value target => do
      return operation.text ++ " " ++ (← describe wording value) ++ " to " ++ target.text
  | .alloca allocated none => pure ("alloca " ++ allocated.text)
  | .alloca allocated (some count) => do
      return "alloca " ++ allocated.text ++ ", " ++ (← describe wording count)
  | .load pointer => do
      return "load " ++ pointedText pointer ++ ", " ++ (← describe wording pointer)
  | .store value pointer => do return "store " ++ (← listed wording [value, pointer])
  | .elementAddress pointer indices => do
      let start :=
        "getelementptr " ++ pointedText pointer ++ ", " ++ (← describe wording pointer) ++ ","
      if indices.isEmpty then return start
      return start ++ " " ++ (← listed wording indices)
  | .extractElement vector index => do
      return "extractelement " ++ (← listed wording [vector, index])
  | .insertElement vector element index => do
      return "insertelement " ++ (← listed wording [vector, element, index])
  | .extractValue aggregate index => do
      return "extractvalue " ++ (← describe wording aggregate) ++ ", " ++ toString index
  | .insertValue aggregate element index => do
      return "insertvalue " ++ (← listed wording [aggregate, element]) ++ ", " ++ toString index
  | .call callee arguments => do
      return "call " ++ calledText callee ++ " " ++ (← reference wording callee) ++ "(" ++
        (← listed wording arguments) ++ ")"
  | .branch target => do return "br " ++ (← targetText wording target)
  | .branchIf condition whenTrue whenFalse => do
      let condition ← describe wording condition
      let whenTrue ← targetText wording whenTrue
      return "br " ++ condition ++ ", " ++ whenTrue ++ ", " ++ (← targetText wording whenFalse)
  | .ret value => do return "ret " ++ (← describe wording value)
  | .retVoid => pure "ret void"

/-- The text of an instruction; white space at its end is left out. -/
def instructionText (wording : Wording) (instruction : Instruction) : Build String := do
  let text ← operationText wording instruction.operation
  if instruction.type = .void then return Text.trimRight text
  return Text.trimRight (Operand.localText instruction.name ++ " = " ++ text)

/-! ## Routines -/

/-- The lines of some instructions, each behind two blanks. -/
def instructionLines (wording : Wording) : List Instruction → Build String
  | [] => pure ""
  | instruction :: instructions => do
      let line ← instructionText wording instruction
      return "  " ++ line ++ "\n" ++ (← instructionLines wording instructions)

/-- The lines of a block. -/
def blockLines (wording : Wording) (block : Block) : Build String := do
  let header ← labelHeader block.label
  return header ++ "\n" ++ (← instructionLines wording block.instructions)

/-- The lines of some blocks. -/
def bodyLines (wording : Wording) : List BlockRef → Build String
  | [] => pure ""
  | place :: places => do
      let lines ← blockLines wording ((← get).block place)
      return lines ++ (← bodyLines wording places)

/-- The text of a block by itself, which is kept. -/
def wholeBlock (wording : Wording) (place : BlockRef) : Build String := do
  let block := (← get).block place
  match block.printed with
  | some text => return text
  | none =>
      let name ← blockText wording place
      let text := Text.trimRight (name ++ " = " ++ (← blockLines wording block))
      modify (·.changeBlock place fun block => { block with printed := some text })
      return text

/-- The parameters of a routine between parentheses. -/
def parameterText (routine : Routine) : String :=
  let named := routine.parameters.map fun parameter =>
    parameter.2.text ++ " " ++ Operand.localText parameter.1
  ", ".intercalate (named ++ if routine.isVariadic then ["..."] else [])

/-- The line that declares a routine or heads its definition. -/
def prototype (wording : Wording) (symbol : SymbolRef) : Build String := do
  let routine := (← get).routine symbol
  let state := if routine.order.isEmpty then "declare" else "define"
  let linkage := if routine.isPrivate then " private " else " "
  return state ++ linkage ++ routine.result.text ++ " " ++ (← symbolText wording symbol) ++ "(" ++
    parameterText routine ++ ")\n"

/-- The text of a routine; it ends with a line feed. -/
def routineText (wording : Wording) (symbol : SymbolRef) : Build String := do
  let head ← prototype wording symbol
  let blocks := (← get).blocks symbol
  if blocks.isEmpty then return head
  return head ++ "\x7b\n" ++ (← bodyLines wording blocks) ++ "\x7d\n"

/-! ## Modules -/

/-- What follows the type of a global: the value that it starts with. -/
def initialText (wording : Wording) (global : Global) : Build String :=
  match global.initial with
  | some value => do
      if value.type = global.valueType then return " " ++ (← reference wording value)
      throw (.startingType value.type global.valueType)
  | none => pure (if global.isPrivate then " undef" else "")

/-- The text of a global, which is kept. -/
def globalText (wording : Wording) (symbol : SymbolRef) : Build String := do
  let global := ((← get).global? symbol).getD default
  match global.printed with
  | some text => return text
  | none =>
      let name ← symbolText wording symbol
      let linkage :=
        if global.isPrivate then "private "
        else if global.initial.isNone then "external " else ""
      let unnamed := if global.isUnnamed then "unnamed_addr " else ""
      let kind := if global.isConstant then "constant " else "global "
      let text := Text.trimRight (name ++ " = " ++ linkage ++ unnamed ++ kind ++
        global.valueType.text ++ (← initialText wording global))
      modify (·.changeGlobal symbol fun global => { global with printed := some text })
      return text

/-- The text of a symbol of a module. -/
def declarationText (wording : Wording) (symbol : SymbolRef) : Build String := do
  match (← get).routine? symbol with
  | some _ => routineText wording symbol
  | none => globalText wording symbol

/-- The texts of some symbols of a module. -/
def declarationTexts (wording : Wording) : List SymbolRef → Build (List String)
  | [] => pure []
  | symbol :: symbols => do
      let text ← declarationText wording symbol
      return text :: (← declarationTexts wording symbols)

/-- The lines in front of the symbols of a module. -/
def moduleHeader (module : Module) : List String :=
  ["; ModuleID = \"" ++ module.name.plain ++ "\"",
    "target triple = \"" ++ Module.triple ++ "\"",
    "target datalayout = \"" ++ Module.dataLayout ++ "\"", ""]

/-- The text of the module of a library. -/
def moduleText (wording : Wording) (place : LibraryId) : Build String := do
  let module := ((← get).library place).module
  let symbols := (List.range module.symbols.length).map (SymbolRef.mk place)
  return "\n".intercalate (moduleHeader module ++ (← declarationTexts wording symbols))

end Wording

end StructuredIR
