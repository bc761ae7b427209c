import StructuredIR.Diagnostic.Report
import StructuredIR.Operand
import StructuredIR.Script.Syntax

/-! # Values

The values that scripts compute with and operations take and give: plain data, types and operands
of the assembly, and references to the things of a session. -/

namespace StructuredIR

/-- A body together with the scope in which it was written. -/
structure Closure where
  /-- The body to run. -/
  body : Script.Body
  /-- The scope in which the body was written. -/
  scope : ScopeId
  /-- What tells the closure from others. -/
  identity : Nat
  deriving Inhabited

/-- What a symbol table says about a symbol, in values of a type. -/
structure SymbolInfoOver (Value : Type) where
  /-- The name inside the library. -/
  name : Value
  /-- The name in the module. -/
  symbolName : Value
  /-- What the symbol is. -/
  kind : Value
  /-- Whether the symbol is only declared. -/
  isDeclaration : Value
  /-- The linkage that is reported. -/
  linkage : Value
  /-- The name of the library that declares it. -/
  libraryName : Value
  /-- The text of the function type or of the type of the global's value. -/
  typeText : Value
  deriving Inhabited

/-- Rows that change with what they belong to. -/
inductive LiveRow where
  /-- The blocks of a routine. -/
  | blocks (routine : SymbolRef)
  /-- The instructions of a block. -/
  | instructions (block : BlockRef)
  /-- The diagnostics of a library's report. -/
  | diagnostics (library : LibraryId)
  deriving DecidableEq, Repr

/-- Dictionaries that change with what they belong to. -/
inductive LiveIndex where
  /-- The symbols of a table. -/
  | symbols (table : TableId)
  /-- The symbols of a module. -/
  | globals (library : LibraryId)
  deriving DecidableEq, Repr

/-- The values of a session. -/
inductive Value where
  /-- Nothing. -/
  | none
  /-- A truth value. -/
  | truth (value : Bool)
  /-- An integer. -/
  | integer (value : Int)
  /-- A floating-point number. -/
  | real (value : Double)
  /-- A text. -/
  | text (content : String)
  /-- A row of bytes, which may be one that can change. -/
  | bytes (content : List UInt8) (isMutable : Bool)
  /-- A list. -/
  | list (items : List Value)
  /-- A fixed row of values. -/
  | tuple (items : List Value)
  /-- Values under keys. -/
  | dictionary (entries : List (Value × Value))
  /-- A row that changes with what it belongs to. -/
  | liveRow (row : LiveRow)
  /-- A dictionary that changes with what it belongs to. -/
  | liveIndex (index : LiveIndex)
  /-- A type. -/
  | type (type : IRType)
  /-- A value of the assembly. -/
  | operand (operand : Operand)
  /-- The mark behind the parameters of a variadic function. -/
  | variadicMark
  /-- A visibility. -/
  | visibility (visibility : Visibility)
  /-- A naming policy. -/
  | policy (policy : NamePolicy)
  /-- A kind of symbol. -/
  | symbolKind (kind : SymbolKind)
  /-- A value that the library has no use for. -/
  | foreign (foreign : Foreign)
  /-- The type of the elements of an array as often as the array holds one. -/
  | repetition (size : Nat) (element : IRType)
  /-- A bare object. -/
  | object (identity : Nat)
  /-- A function of a library. -/
  | function (function : FunctionRef)
  /-- A fragment. -/
  | fragment (fragment : FragmentId)
  /-- A generator. -/
  | generator (generator : GeneratorId)
  /-- A library. -/
  | library (library : LibraryId)
  /-- The module of a library. -/
  | module (library : LibraryId)
  /-- The report of a library. -/
  | report (library : LibraryId)
  /-- A diagnostic of a report. -/
  | diagnostic (diagnostic : Diagnostic)
  /-- A registry of libraries. -/
  | registry (registry : RegistryId)
  /-- A program with its name and its registry. -/
  | program (name : Value) (registry : RegistryId)
  /-- A symbol table. -/
  | table (table : TableId)
  /-- What a symbol table says about a symbol. -/
  | symbolInfo (info : SymbolInfoOver Value)
  /-- What a name resolves to. -/
  | resolution (kind : SymbolKind) (target : Value)
  /-- A callback. -/
  | callback (closure : Closure)
  /-- A method of a value. -/
  | method (receiver : Value) (name : String)
  deriving Inhabited

/-- What a symbol table says about a symbol. -/
abbrev SymbolInfo := SymbolInfoOver Value

/-- The class of a type. -/
def IRType.className : IRType → String
  | .int _ => "IntType"
  | .half => "HalfType"
  | .float => "FloatType"
  | .double => "DoubleType"
  | .void => "VoidType"
  | .label _ => "LabelType"
  | .pointer _ => "_TypedPointerType"
  | .array .. => "ArrayType"
  | .vector .. => "VectorType"
  | .struct _ => "LiteralStructType"
  | .function .. => "FunctionType"

/-- The class of a value that the library has no use for. -/
def Foreign.className : Foreign → String
  | .set => "set"
  | .complex => "complex"
  | .undetermined => "_Undefined"
  | .position => "IRBuilder"

/-- The value of a phrase. -/
def Phrase.value : Phrase → Value
  | .text content => .text content
  | .visibility known => .visibility known
  | .policy known => .policy known

/-- What a diagnostic belongs to, as a value. -/
def Diagnostic.sourceValue (diagnostic : Diagnostic) : Value :=
  match diagnostic.source with
  | some source => source.value
  | none => .none

namespace Value

/-! ## Kinds -/

/-- The name of the class of a value. -/
def className : Value → String
  | .none => "NoneType"
  | .truth _ => "bool"
  | .integer _ => "int"
  | .real _ => "float"
  | .text _ => "str"
  | .bytes _ isMutable => if isMutable then "bytearray" else "bytes"
  | .list _ | .liveRow _ => "list"
  | .tuple _ => "tuple"
  | .dictionary _ | .liveIndex (.symbols _) => "dict"
  | .liveIndex (.globals _) => "OrderedDict"
  | .type known => known.className
  | .operand known => known.className
  | .variadicMark => "_VarArgs"
  | .visibility _ => "Visibility"
  | .policy _ => "Prefix"
  | .symbolKind _ => "SymbolType"
  | .foreign known => known.className
  | .repetition .. => "_Repeat"
  | .object _ => "object"
  | .function _ => "Function"
  | .fragment _ => "Macro"
  | .generator _ => "Generator"
  | .library _ => "Library"
  | .module _ => "Module"
  | .report _ => "Reporter"
  | .diagnostic _ => "Diagnostic"
  | .registry _ => "LibraryRegistry"
  | .program .. => "Program"
  | .table _ => "SymbolTable"
  | .symbolInfo _ => "SymbolInfo"
  | .resolution .. => "Resolution"
  | .callback _ => "function"
  | .method .. => "method"

/-- What messages call a value: the type of a type or of a value of the assembly, and else the
name of the class. -/
def typeName : Value → String
  | .type known => known.text
  | .operand known => known.type.text
  | .none => "None"
  | value => value.className

/-- The text that a value is, or the word in its place. -/
def phrase? : Value → Option Phrase
  | .text content => some (.text content)
  | .visibility known => some (.visibility known)
  | .policy known => some (.policy known)
  | _ => Option.none

/-- The text that a value is, for words of fixed choices too. -/
def text? (value : Value) : Option String :=
  value.phrase?.map Phrase.content

/-- The block that a value is. -/
def block? : Value → Option BlockRef
  | .operand (.block place) => some place
  | _ => Option.none

/-- Whether a value is there at all. -/
def isGiven : Value → Bool
  | .none => false
  | _ => true

/-- Whether a value is the visibility of what everybody sees. -/
def isPublic : Value → Bool
  | .visibility .isPublic => true
  | _ => false

/-- Whether a value is the visibility of what only its library sees. -/
def isPrivate : Value → Bool
  | .visibility .isPrivate => true
  | _ => false

/-- The visibility that a value stands for. -/
def visibility? (value : Value) : Option Visibility :=
  value.text?.bind Visibility.ofText?

/-- The naming policy that a value stands for. -/
def policy? (value : Value) : Option NamePolicy :=
  value.text?.bind NamePolicy.ofText?

/-- Whether a value is a number that equals zero, or a constant made from one. -/
def isStaticZero : Value → Bool
  | .truth value => !value
  | .integer value => value == 0
  | .real value => value.isZero
  | .operand known => known.isZeroNumber
  | _ => false

/-- The integer part of a floating-point number. -/
def integerOfReal (value : Double) : Except Fault Int :=
  match value with
  | .nan _ => .error .integerOfNaN
  | .infinity _ => .error .integerOfInfinity
  | value => .ok (value.truncate?.getD 0)

/-- How many characters complaints show of what is no integer. -/
def shownDigits : Nat := 200

/-- As much of a text as complaints show. -/
def cutShort (text : String) : String :=
  String.ofList (text.toList.take shownDigits)

/-- The integer that a phrase stands for. -/
def integerOfPhrase (phrase : Phrase) : Except Fault Int :=
  let digits := Number.leadingDigits phrase.content
  if Number.maximalDigits < digits then .error (.tooManyDigits digits)
  else
    match Number.readInt? phrase.content with
    | some value => .ok value
    | Option.none => .error (.malformedInteger (cutShort phrase.quoted))

end Value

end StructuredIR
