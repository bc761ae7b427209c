import StructuredIR.Diagnostic.Template

/-! # The catalogue of diagnostics

Every diagnostic of the library has a code, a severity, a category, a message template and an
explanation. Codes are grouped by their numbers: operand types, arguments, arithmetic, names,
libraries, and warnings. -/

namespace StructuredIR

/-- How grave a diagnostic is. -/
inductive Severity where
  /-- The operation fails. -/
  | error
  /-- The operation goes on. -/
  | warning
  deriving DecidableEq, Repr

/-- The name of a severity. -/
def Severity.text : Severity → String
  | .error => "error"
  | .warning => "warning"

/-- What a diagnostic is about. -/
inductive Category where
  /-- Nothing in particular. -/
  | general
  /-- The type of an operand. -/
  | type
  /-- The arguments of an operation. -/
  | argument
  /-- The outcome of an operation on numbers. -/
  | arithmetic
  /-- The resolution of a name. -/
  | name
  /-- The symbols of libraries. -/
  | library
  deriving DecidableEq, Repr

/-- The name of a category. -/
def Category.text : Category → String
  | .general => "general"
  | .type => "type"
  | .argument => "argument"
  | .arithmetic => "arithmetic"
  | .name => "name"
  | .library => "library"

/-- The diagnostics of the library. -/
inductive Code where
  /-- No conversion rule applies to a value. -/
  | coercion
  /-- An operand is neither an integer nor a floating-point number. -/
  | notNumeric
  /-- An operand is not a pointer. -/
  | notPointer
  /-- An operand is not an integer. -/
  | notInteger
  /-- An operand is not a floating-point number. -/
  | notFloat
  /-- A cast would change the kind of a value. -/
  | castKinds
  /-- A value is not one of the assembly. -/
  | notOperand
  /-- A value has no elements. -/
  | notAggregate
  /-- A fragment is expanded with a wrong number of arguments. -/
  | fragmentArity
  /-- A function is called with a wrong number of arguments. -/
  | functionArity
  /-- A function that yields a value returns without one. -/
  | missingResult
  /-- A loop has no part. -/
  | emptyLoop
  /-- A value cannot be called. -/
  | notCallable
  /-- There is no operation of this name. -/
  | unknownOperation
  /-- A value is neither a type nor a type text. -/
  | notType
  /-- A type text is no sentence of the grammar. -/
  | malformedType
  /-- A text is converted without a string pool. -/
  | unpooledText
  /-- An array literal has no element to take a type from. -/
  | emptyArray
  /-- A loop is left where there is none. -/
  | outsideLoop
  /-- A condition has no arm. -/
  | missingThen
  /-- A divisor is known to be zero. -/
  | constantZero
  /-- A name resolves to nothing. -/
  | unknownName
  /-- No library has the name to import. -/
  | unknownLibrary
  /-- A value to import is no library. -/
  | notLibrary
  /-- A name is declared already. -/
  | alreadyDeclared
  /-- A library has no symbol of a name. -/
  | noSuchSymbol
  /-- A library of the name is registered already. -/
  | alreadyRegistered
  /-- A library imports itself. -/
  | selfImport
  /-- A module fails verification. -/
  | failedVerification
  /-- A visibility is not valid. -/
  | invalidVisibility
  /-- A naming policy is not valid. -/
  | invalidPolicy
  /-- A library name is not valid. -/
  | invalidName
  /-- An external declaration cannot be private. -/
  | privateDeclaration
  /-- An imported name collides. -/
  | importCollision
  /-- An imported name is changed. -/
  | importRenamed
  deriving DecidableEq, Repr

namespace Code

/-- All codes in the order of the catalogue. -/
def all : List Code :=
  [.coercion, .notNumeric, .notPointer, .notInteger, .notFloat, .castKinds, .notOperand,
   .notAggregate, .fragmentArity, .functionArity, .missingResult, .emptyLoop, .notCallable,
   .unknownOperation, .notType, .malformedType, .unpooledText, .emptyArray, .outsideLoop,
   .missingThen, .constantZero, .unknownName, .unknownLibrary, .notLibrary, .alreadyDeclared,
   .noSuchSymbol, .alreadyRegistered, .selfImport, .failedVerification, .invalidVisibility,
   .invalidPolicy, .invalidName, .privateDeclaration, .importCollision, .importRenamed]

/-- The code's own text. -/
def text : Code → String
  | .coercion => "CE0101"
  | .notNumeric => "CE0102"
  | .notPointer => "CE0103"
  | .notInteger => "CE0104"
  | .notFloat => "CE0105"
  | .castKinds => "CE0106"
  | .notOperand => "CE0107"
  | .notAggregate => "CE0108"
  | .fragmentArity => "CE0201"
  | .functionArity => "CE0202"
  | .missingResult => "CE0203"
  | .emptyLoop => "CE0204"
  | .notCallable => "CE0205"
  | .unknownOperation => "CE0206"
  | .notType => "CE0207"
  | .malformedType => "CE0208"
  | .unpooledText => "CE0209"
  | .emptyArray => "CE0210"
  | .outsideLoop => "CE0211"
  | .missingThen => "CE0212"
  | .constantZero => "CE0301"
  | .unknownName => "CE0401"
  | .unknownLibrary => "CE0501"
  | .notLibrary => "CE0502"
  | .alreadyDeclared => "CE0503"
  | .noSuchSymbol => "CE0504"
  | .alreadyRegistered => "CE0505"
  | .selfImport => "CE0506"
  | .failedVerification => "CE0507"
  | .invalidVisibility => "CW0001"
  | .invalidPolicy => "CW0002"
  | .invalidName => "CW0003"
  | .privateDeclaration => "CW0004"
  | .importCollision => "CW0101"
  | .importRenamed => "CW0102"

/-- The code with a given text. -/
def ofText? (text : String) : Option Code :=
  all.find? fun code => code.text == text

/-- The severity of a diagnostic: codes that begin with `CW` are warnings. -/
def severity : Code → Severity
  | .invalidVisibility | .invalidPolicy | .invalidName | .privateDeclaration | .importCollision
  | .importRenamed => .warning
  | _ => .error

/-- The category of a diagnostic. -/
def category : Code → Category
  | .coercion | .notNumeric | .notPointer | .notInteger | .notFloat | .castKinds
  | .notOperand | .notAggregate => .type
  | .fragmentArity | .functionArity | .missingResult | .emptyLoop | .notCallable
  | .unknownOperation | .notType | .malformedType | .unpooledText | .emptyArray
  | .outsideLoop | .missingThen => .argument
  | .constantZero => .arithmetic
  | .unknownName => .name
  | .unknownLibrary | .notLibrary | .alreadyDeclared | .noSuchSymbol | .alreadyRegistered
  | .selfImport | .failedVerification | .invalidVisibility | .invalidPolicy | .invalidName
  | .privateDeclaration | .importCollision | .importRenamed => .library

/-- The message template of a diagnostic. -/
def template : Code → Template
  | .coercion =>
      [.text "value should be of ", .field "expected", .text ", ", .field "actual",
       .text " given"]
  | .notNumeric =>
      [.text "value passed to ", .field "op", .text " is not numeric, ", .field "actual",
       .text " given"]
  | .notPointer => [.field "op", .text " needs a pointer, ", .field "actual", .text " given"]
  | .notInteger =>
      [.text "value passed to ", .field "op", .text " is not an integer, ", .field "actual",
       .text " given"]
  | .notFloat =>
      [.text "value passed to ", .field "op", .text " is not a float, ", .field "actual",
       .text " given"]
  | .castKinds => [.text "cannot cast ", .field "src", .text " to ", .field "dst"]
  | .notOperand =>
      [.text "value passed to ", .field "op", .text " is not an IR value, ", .field "actual",
       .text " given"]
  | .notAggregate =>
      [.field "op", .text " needs a vector or aggregate, ", .field "actual", .text " given"]
  | .fragmentArity =>
      [.text "wrong number of arguments passed to macro '", .field "name", .text "' (",
       .field "got", .text " for ", .field "expected", .text ")"]
  | .functionArity =>
      [.text "wrong number of arguments passed to function '", .field "name", .text "' (",
       .field "got", .text " for ", .field "expected", .text ")"]
  | .missingResult => [.text "value must be passed to non-void function ", .field "kind"]
  | .emptyLoop =>
      [.text "a body, a compare callback, or an increment callback must be passed to lp"]
  | .notCallable =>
      [.text "callable passed to call must be an IR value, a Function, or a symbol name, ",
       .field "actual", .text " given"]
  | .unknownOperation => [.text "unrecognized operation '", .field "op", .text "' passed to opr"]
  | .notType =>
      [.text "type passed to ", .field "op", .text " must be an IR type or a type string, ",
       .field "actual", .text " given"]
  | .malformedType => [.text "malformed type string ", .quotedField "text"]
  | .unpooledText =>
      [.text "string value ", .quotedField "text", .text " needs a library string pool"]
  | .emptyArray => [.text "cannot infer the element type of an empty array literal"]
  | .outsideLoop => [.field "op", .text " used outside of a loop"]
  | .missingThen => [.text "a then callback must be passed to cond"]
  | .constantZero => [.field "op", .text " by a constant zero"]
  | .unknownName =>
      [.text "function, macro, or global '", .field "name", .text "' does not exist in library '",
       .field "library", .text "'"]
  | .unknownLibrary => [.text "no library named '", .field "name", .text "' to import"]
  | .notLibrary =>
      [.text "cannot import ", .field "actual", .text ", expected a Library or a library name"]
  | .alreadyDeclared =>
      [.field "kind", .text " '", .field "name", .text "' is already declared in library '",
       .field "library", .text "'"]
  | .noSuchSymbol =>
      [.text "library '", .field "library", .text "' has no symbol named '", .field "name",
       .text "'"]
  | .alreadyRegistered =>
      [.text "a library named '", .field "name", .text "' is already registered"]
  | .selfImport => [.text "a library cannot import itself ('", .field "name", .text "')"]
  | .failedVerification =>
      [.text "module of library '", .field "name", .text "' failed verification: ",
       .field "reason"]
  | .invalidVisibility =>
      [.text "invalid visibility ", .quotedField "value", .text ", keeping '", .field "fallback",
       .text "'"]
  | .invalidPolicy =>
      [.text "invalid prefix policy ", .quotedField "value", .text ", using '", .field "fallback",
       .text "'"]
  | .invalidName =>
      [.text "invalid library name ", .quotedField "value", .text ", using '", .field "fallback",
       .text "'"]
  | .privateDeclaration =>
      [.text "external declaration '", .field "name", .text "' cannot be made private"]
  | .importCollision =>
      [.field "kind", .text " '", .field "name", .text "' imported from '", .field "source",
       .text "' collides with an existing symbol, keeping the existing one"]
  | .importRenamed =>
      [.field "kind", .text " '", .field "name", .text "' imported from '", .field "source",
       .text "' as '", .field "alias", .text "'"]

/-- The explanation of a diagnostic, empty if its message says all. -/
def explanation : Code → String
  | .coercion => "No conversion rule turns the host value into the expected IR type."
  | .notNumeric => "Arithmetic and numeric casts need integer or floating-point operands."
  | .notPointer => "load, store, gep and free operate on pointer values only."
  | .notInteger => "Shifts and itof need integer operands."
  | .notFloat => "ftoi needs a floating-point operand."
  | .castKinds => "cast only resizes integers, floats, or pointers within their own kind."
  | .notOperand => "Null checks need an existing IR value."
  | .notAggregate => "insert/extract operate on vectors, arrays and structs."
  | .fragmentArity => "Macros are inlined with an exact positional arity."
  | .functionArity => "Calls must match the declared parameter count (or exceed it for varargs)."
  | .missingResult => "sret and pret of a non-void function need the returned value."
  | .emptyLoop => "A loop needs at least one part to build."
  | .malformedType =>
      "Type strings use LLVM syntax: i32, double, i8*, [4 x i32], {i32, i8*}, <4 x float>."
  | .unpooledText => "Strings are interned as globals and can only be converted with a pool."
  | .outsideLoop => "brk and cont only exist on generators created by lp."
  | .constantZero =>
      "Division and remainder by a statically known zero are rejected before emission."
  | .unknownLibrary => "Import by name looks the library up in the importer's registry."
  | .alreadyDeclared => "Names are unique per symbol kind within one library."
  | _ => ""

end Code

end StructuredIR
