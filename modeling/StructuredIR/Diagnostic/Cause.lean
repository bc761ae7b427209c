import StructuredIR.Diagnostic.Catalogue
import StructuredIR.Text.Quoted

/-! # Causes of diagnostics

A cause is a catalogued diagnostic together with what fills its fields. Every cause fills all
fields of its template, so its message is always complete. -/

namespace StructuredIR

/-- What an operation of the library can complain about. -/
inductive Cause where
  /-- A value of kind `actual` cannot become what is expected. -/
  | coercion (expected actual : String)
  /-- An operand of `operation` is neither an integer nor a floating-point number. -/
  | notNumeric (operation actual : String)
  /-- An operand of `operation` is not a pointer. -/
  | notPointer (operation actual : String)
  /-- An operand of `operation` is not an integer. -/
  | notInteger (operation actual : String)
  /-- An operand of `operation` is not a floating-point number. -/
  | notFloat (operation actual : String)
  /-- A cast from one kind of type to another. -/
  | castKinds (source target : String)
  /-- An operand of `operation` is not a value of the assembly. -/
  | notOperand (operation actual : String)
  /-- An operand of `operation` has no elements. -/
  | notAggregate (operation actual : String)
  /-- A fragment is expanded with a wrong number of arguments. -/
  | fragmentArity (name : String) (given expected : Nat)
  /-- A function is called with a wrong number of arguments. -/
  | functionArity (name : String) (given expected : Nat)
  /-- A function that yields a value returns without one. -/
  | missingResult (kind : String)
  /-- A loop has no part. -/
  | emptyLoop
  /-- A value cannot be called. -/
  | notCallable (actual : String)
  /-- There is no operation of this name. -/
  | unknownOperation (operation : String)
  /-- A value is neither a type nor a type text. -/
  | notType (operation actual : String)
  /-- A type text is no sentence of the grammar. -/
  | malformedType (quoted : String)
  /-- A text is converted without a string pool. -/
  | unpooledText (quoted : String)
  /-- An array literal has no element to take a type from. -/
  | emptyArray
  /-- A loop is left where there is none. -/
  | outsideLoop (operation : String)
  /-- A condition has no arm. -/
  | missingThen
  /-- The divisor of `operation` is known to be zero. -/
  | constantZero (operation : String)
  /-- A name resolves to nothing. -/
  | unknownName (name library : String)
  /-- No library has the name to import. -/
  | unknownLibrary (name : String)
  /-- A value to import is no library. -/
  | notLibrary (actual : String)
  /-- A name is declared already. -/
  | alreadyDeclared (kind name library : String)
  /-- A library has no symbol of a name. -/
  | noSuchSymbol (library name : String)
  /-- A library of the name is registered already. -/
  | alreadyRegistered (name : String)
  /-- A library imports itself. -/
  | selfImport (name : String)
  /-- A visibility is not valid. -/
  | invalidVisibility (quoted fallback : String)
  /-- A naming policy is not valid. -/
  | invalidPolicy (quoted fallback : String)
  /-- A library name is not valid. -/
  | invalidName (quoted fallback : String)
  /-- An external declaration cannot be private. -/
  | privateDeclaration (name : String)
  /-- An imported name collides. -/
  | importCollision (kind name source : String)
  /-- An imported name is changed. -/
  | importRenamed (kind name source newName : String)
  deriving DecidableEq, Repr

/-- The filling of a field with a text. -/
def Filling.ofText (text : String) : Filling :=
  ⟨text, Text.quoted text⟩

/-- The filling of a field with a number. -/
def Filling.ofNat (number : Nat) : Filling :=
  ⟨toString number, toString number⟩

/-- The filling of a field with the quoted text of a value. -/
def Filling.ofQuoted (quoted : String) : Filling :=
  ⟨quoted, quoted⟩

namespace Cause

/-- The catalogued diagnostic of a cause. -/
def code : Cause → Code
  | .coercion .. => .coercion
  | .notNumeric .. => .notNumeric
  | .notPointer .. => .notPointer
  | .notInteger .. => .notInteger
  | .notFloat .. => .notFloat
  | .castKinds .. => .castKinds
  | .notOperand .. => .notOperand
  | .notAggregate .. => .notAggregate
  | .fragmentArity .. => .fragmentArity
  | .functionArity .. => .functionArity
  | .missingResult .. => .missingResult
  | .emptyLoop => .emptyLoop
  | .notCallable .. => .notCallable
  | .unknownOperation .. => .unknownOperation
  | .notType .. => .notType
  | .malformedType .. => .malformedType
  | .unpooledText .. => .unpooledText
  | .emptyArray => .emptyArray
  | .outsideLoop .. => .outsideLoop
  | .missingThen => .missingThen
  | .constantZero .. => .constantZero
  | .unknownName .. => .unknownName
  | .unknownLibrary .. => .unknownLibrary
  | .notLibrary .. => .notLibrary
  | .alreadyDeclared .. => .alreadyDeclared
  | .noSuchSymbol .. => .noSuchSymbol
  | .alreadyRegistered .. => .alreadyRegistered
  | .selfImport .. => .selfImport
  | .invalidVisibility .. => .invalidVisibility
  | .invalidPolicy .. => .invalidPolicy
  | .invalidName .. => .invalidName
  | .privateDeclaration .. => .privateDeclaration
  | .importCollision .. => .importCollision
  | .importRenamed .. => .importRenamed

/-- What fills the fields of a cause's template. -/
def fillings : Cause → List (String × Filling)
  | .coercion expected actual => [("expected", .ofText expected), ("actual", .ofText actual)]
  | .notNumeric operation actual | .notPointer operation actual | .notInteger operation actual
  | .notFloat operation actual | .notOperand operation actual | .notAggregate operation actual
  | .notType operation actual => [("op", .ofText operation), ("actual", .ofText actual)]
  | .castKinds source target => [("src", .ofText source), ("dst", .ofText target)]
  | .fragmentArity name given expected | .functionArity name given expected =>
      [("name", .ofText name), ("got", .ofNat given), ("expected", .ofNat expected)]
  | .missingResult kind => [("kind", .ofText kind)]
  | .emptyLoop | .emptyArray | .missingThen => []
  | .notCallable actual | .notLibrary actual => [("actual", .ofText actual)]
  | .unknownOperation operation | .outsideLoop operation | .constantZero operation =>
      [("op", .ofText operation)]
  | .malformedType quoted | .unpooledText quoted => [("text", .ofQuoted quoted)]
  | .unknownName name library | .noSuchSymbol library name =>
      [("name", .ofText name), ("library", .ofText library)]
  | .unknownLibrary name | .alreadyRegistered name | .selfImport name
  | .privateDeclaration name => [("name", .ofText name)]
  | .alreadyDeclared kind name library =>
      [("kind", .ofText kind), ("name", .ofText name), ("library", .ofText library)]
  | .invalidVisibility quoted fallback | .invalidPolicy quoted fallback
  | .invalidName quoted fallback => [("value", .ofQuoted quoted), ("fallback", .ofText fallback)]
  | .importCollision kind name source =>
      [("kind", .ofText kind), ("name", .ofText name), ("source", .ofText source)]
  | .importRenamed kind name source newName =>
      [("kind", .ofText kind), ("name", .ofText name), ("source", .ofText source),
        ("alias", .ofText newName)]

/-- The message of a cause. -/
def message (cause : Cause) : String :=
  match cause.code.template.fill cause.fillings with
  | .ok message => message
  | .error field => field

/-- A cause fills every field of its template. -/
theorem fill_template (cause : Cause) :
    cause.code.template.fill cause.fillings = .ok cause.message := by
  cases cause <;> rfl

/-- The message of a cause after its code. -/
def headline (cause : Cause) : String :=
  cause.code.text ++ ": " ++ cause.message

end Cause

end StructuredIR
