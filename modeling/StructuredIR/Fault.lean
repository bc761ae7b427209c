import StructuredIR.Diagnostic.Cause
import StructuredIR.Type.Basic

/-! # Faults

Everything by which an operation can fail: a catalogued complaint of the library, a check of an
instruction on its operands, a number that does not fit, a value of the wrong sort, or one of a
few failures that carry no message. -/

namespace StructuredIR

/-- Why an operation fails. -/
inductive Fault where
  /-- A catalogued complaint. -/
  | rejected (cause : Cause)
  /-- The operands of a binary operation differ in type. -/
  | operandTypes (left right : IRType)
  /-- A value is stored at an address of another type. -/
  | storeTypes (value pointer : IRType)
  /-- An argument of a call has not the type of its parameter; positions count from one. -/
  | argumentType (position : Nat) (expected given : IRType)
  /-- The callee is no function. -/
  | notFunction (type : IRType)
  /-- An aggregate has no element at an index. -/
  | noElement (index : Int) (type : IRType)
  /-- A value does not fit the element that it replaces. -/
  | elementType (element : IRType) (index : Int) (aggregate given : IRType)
  /-- A value does not fit the elements of a vector. -/
  | vectorElement (expected given : IRType)
  /-- The index into a vector is no integer. -/
  | vectorIndex
  /-- The index of an address computation is no integer. -/
  | addressIndex (type : IRType)
  /-- A constant has a wrong number of elements. -/
  | contentSize (type : IRType) (given : Nat)
  /-- The element that fills a vector constant has another type. -/
  | contentType (expected given : IRType)
  /-- A global starts with a value of another type. -/
  | startingType (given expected : IRType)
  /-- A number is too large for a sixteen-bit floating-point constant. -/
  | tooLargeForHalf
  /-- An integer is too large for a floating-point number. -/
  | tooLargeForDouble
  /-- There is no integer for what is not a number. -/
  | integerOfNaN
  /-- There is no integer for an infinity. -/
  | integerOfInfinity
  /-- A text is no integer. -/
  | malformedInteger (quoted : String)
  /-- A text has too many digits for an integer. -/
  | tooManyDigits (count : Nat)
  /-- A text is no floating-point number. -/
  | malformedFloat (quoted : String)
  /-- A value of this kind cannot number a field. -/
  | notIndex (kind : String)
  /-- A value of this kind is no integer. -/
  | notNumber (kind : String)
  /-- A value of this kind is no floating-point number. -/
  | notReal (kind : String)
  /-- A value cannot be packed into a narrow floating-point number. -/
  | notPackable
  /-- A callback is called with a wrong number of arguments. -/
  | callbackArguments (expected given : Nat)
  /-- A value of this kind cannot be called. -/
  | uncallable (kind : String)
  /-- A value of this kind has no items. -/
  | notIterable (kind : String)
  /-- A value of this kind cannot hold others. -/
  | notContainer (kind : String)
  /-- A value of this kind cannot be part of a text. -/
  | notInText (kind : String)
  /-- A value of this kind cannot be part of a row of bytes. -/
  | notInBytes (kind : String)
  /-- A number is no byte. -/
  | notByte
  /-- A value of this kind is no text. -/
  | notText (kind : String)
  /-- A row of bytes meets a pattern for texts. -/
  | bytesForText
  /-- A text meets a row of bytes. -/
  | textForBytes
  /-- A method is called with arguments that it does not take. -/
  | methodArguments (complaint : String)
  /-- A value of this kind has no length. -/
  | noLength (kind : String)
  /-- A length is too large for an index. -/
  | uncountable
  /-- A value of this kind has no items by position. -/
  | notSubscriptable (kind : String)
  /-- A value of this kind cannot be a key. -/
  | unhashable (kind : String)
  /-- The value to store is missing after the indices. -/
  | missingStoredValue
  /-- A block to move is not in the function. -/
  | blockNotHere
  /-- A block to move after is not in the function. -/
  | anchorNotHere (quoted : String)
  /-- A check of an instruction or type fails. -/
  | failedCheck
  /-- A value has no such attribute. -/
  | missingAttribute
  /-- A name is taken in its module. -/
  | duplicateName
  /-- An index is out of range. -/
  | indexOutOfRange
  /-- A key is not there. -/
  | missingKey
  /-- A type text spells a pointer to `void` or a number with too many digits. -/
  | unbuildableType
  /-- Callbacks are nested too deeply. -/
  | tooDeep
  deriving DecidableEq, Repr

/-- The sorts of faults. -/
inductive FaultKind where
  /-- A catalogued complaint of a category. -/
  | rejected (category : Category)
  /-- A value or type of the wrong sort. -/
  | wrongType
  /-- A value out of its domain. -/
  | wrongValue
  /-- A number that is too large. -/
  | overflow
  /-- A value that cannot be packed. -/
  | notPackable
  /-- A failed check. -/
  | failedCheck
  /-- A missing attribute. -/
  | missingAttribute
  /-- A duplicate name. -/
  | duplicateName
  /-- An index out of range. -/
  | indexOutOfRange
  /-- A missing key. -/
  | missingKey
  /-- A type that cannot be built. -/
  | unbuildableType
  /-- Callbacks nested too deeply. -/
  | tooDeep
  deriving DecidableEq, Repr

namespace Fault

/-- The sort of a fault. -/
def kind : Fault → FaultKind
  | .rejected cause => .rejected cause.code.category
  | .storeTypes .. | .argumentType .. | .notFunction .. | .noElement .. | .elementType ..
  | .vectorElement .. | .vectorIndex | .addressIndex .. | .contentType .. | .startingType ..
  | .notIndex .. | .notNumber .. | .notReal .. | .callbackArguments .. | .uncallable ..
  | .notIterable .. | .notContainer .. | .notInText .. | .notInBytes .. | .notText ..
  | .bytesForText | .textForBytes | .methodArguments .. | .noLength .. | .notSubscriptable ..
  | .unhashable .. => .wrongType
  | .operandTypes .. | .contentSize .. | .integerOfNaN | .malformedInteger .. | .tooManyDigits ..
  | .malformedFloat .. | .notByte | .missingStoredValue | .blockNotHere | .anchorNotHere .. =>
      .wrongValue
  | .tooLargeForHalf | .tooLargeForDouble | .integerOfInfinity | .uncountable => .overflow
  | .notPackable => .notPackable
  | .failedCheck => .failedCheck
  | .missingAttribute => .missingAttribute
  | .duplicateName => .duplicateName
  | .indexOutOfRange => .indexOutOfRange
  | .missingKey => .missingKey
  | .unbuildableType => .unbuildableType
  | .tooDeep => .tooDeep

/-- The message of a fault, empty for those that carry none. -/
def message : Fault → String
  | .rejected cause => cause.headline
  | .operandTypes left right =>
      s!"Operands must be the same type, got ({left.text}, {right.text})"
  | .storeTypes value pointer =>
      s!"cannot store {value.text} to {pointer.text}: mismatching types"
  | .argumentType position expected given =>
      s!"Type of #{position} arg mismatch: {expected.text} != {given.text}"
  | .notFunction type => s!"Not a function: {type.text}"
  | .noElement index type => s!"Can't index at [{index}] in {type.text}"
  | .elementType element index aggregate given =>
      s!"Can only insert {element.text} at [{index}] in {aggregate.text}: got {given.text}"
  | .vectorElement expected given =>
      s!"value needs to be of type {expected.text} not {given.text}."
  | .vectorIndex => "index needs to be of IntType."
  | .addressIndex type => type.text
  | .contentSize type given => s!"wrong constant size for {type.text}: got {given} elements"
  | .contentType expected given => s!"expected {expected.text} for {given.text}"
  | .startingType given expected =>
      s!"got initializer of type {given.text} for global value type {expected.text}"
  | .tooLargeForHalf => "float too large to pack with e format"
  | .tooLargeForDouble => "int too large to convert to float"
  | .integerOfNaN => "cannot convert float NaN to integer"
  | .integerOfInfinity => "cannot convert float infinity to integer"
  | .uncountable => "cannot fit 'int' into an index-sized integer"
  | .malformedInteger quoted => s!"invalid literal for int() with base 10: {quoted}"
  | .tooManyDigits count =>
      "Exceeds the limit (4300 digits) for integer string conversion: value has " ++
        s!"{count} digits; use sys.set_int_max_str_digits() to increase the limit"
  | .malformedFloat quoted => s!"could not convert string to float: {quoted}"
  | .notIndex kind => s!"tuple indices must be integers or slices, not {kind}"
  | .notNumber kind =>
      "int() argument must be a string, a bytes-like object or a real number, not " ++
        s!"'{kind}'"
  | .notReal kind => s!"float() argument must be a string or a real number, not '{kind}'"
  | .notContainer kind => s!"argument of type '{kind}' is not iterable"
  | .notInText kind => s!"'in <string>' requires string as left operand, not {kind}"
  | .notInBytes kind => s!"a bytes-like object is required, not '{kind}'"
  | .notByte => "byte must be in range(0, 256)"
  | .notText kind => s!"expected string or bytes-like object, got '{kind}'"
  | .bytesForText => "cannot use a string pattern on a bytes-like object"
  | .textForBytes => "a bytes-like object is required, not 'str'"
  | .methodArguments complaint => complaint
  | .callbackArguments expected given => s!"callback takes {expected} arguments ({given} given)"
  | .uncallable kind => s!"'{kind}' object is not callable"
  | .notIterable kind => s!"'{kind}' object is not iterable"
  | .noLength kind => s!"object of type '{kind}' has no len()"
  | .notSubscriptable kind => s!"'{kind}' object is not subscriptable"
  | .unhashable kind => s!"unhashable type: '{kind}'"
  | .missingStoredValue => "not enough values to unpack (expected at least 1, got 0)"
  | .blockNotHere => "list.remove(x): x not in list"
  | .anchorNotHere quoted => s!"{quoted} is not in list"
  | .notPackable | .failedCheck | .missingAttribute | .duplicateName | .indexOutOfRange
  | .missingKey | .unbuildableType | .tooDeep => ""

end Fault

end StructuredIR
