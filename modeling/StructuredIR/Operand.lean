import StructuredIR.Fault
import StructuredIR.Number.Reader
import StructuredIR.Number.Shortest
import StructuredIR.Text.Escaped

/-! # Operands

The values that instructions and globals refer to: constants of a type, the symbols of modules,
and the parameters, results and blocks of routines. An operand knows its type. The text of a
number can fail, when the number is too large for its type or does not fit it at all. -/

namespace StructuredIR

/-- The sorts of instructions that give results. -/
inductive ResultSort where
  /-- A binary operation. -/
  | binary
  /-- A comparison of integers or pointers. -/
  | compareInt
  /-- A comparison of floating-point numbers. -/
  | compareFloat
  /-- A conversion. -/
  | cast
  /-- A stack slot. -/
  | alloca
  /-- A load. -/
  | load
  /-- A store. -/
  | store
  /-- An address computation. -/
  | elementAddress
  /-- An element of a vector. -/
  | extractElement
  /-- A vector with another element. -/
  | insertElement
  /-- An element of an array or structure. -/
  | extractValue
  /-- An array or structure with another element. -/
  | insertValue
  /-- A call. -/
  | call
  /-- A branch. -/
  | branch
  /-- A conditional branch. -/
  | branchIf
  /-- A return. -/
  | ret
  deriving DecidableEq, Repr, Inhabited

/-- The name of the class of the results of a sort. -/
def ResultSort.className : ResultSort → String
  | .binary => "Instruction"
  | .compareInt => "ICMPInstr"
  | .compareFloat => "FCMPInstr"
  | .cast => "CastInstr"
  | .alloca => "AllocaInstr"
  | .load => "LoadInstr"
  | .store => "StoreInstr"
  | .elementAddress => "GEPInstr"
  | .extractElement => "ExtractElement"
  | .insertElement => "InsertElement"
  | .extractValue => "ExtractValue"
  | .insertValue => "InsertValue"
  | .call => "CallInstr"
  | .branch => "Branch"
  | .branchIf => "ConditionalBranch"
  | .ret => "Ret"

/-- The values of the assembly. -/
inductive Operand where
  /-- A constant without content: the zero of its type. -/
  | absent (type : IRType)
  /-- A constant without a determined value. -/
  | undefined (type : IRType)
  /-- A constant from a truth value. -/
  | truth (type : IRType) (value : Bool)
  /-- A constant from an integer. -/
  | integer (type : IRType) (value : Int)
  /-- A constant from a floating-point number. -/
  | real (type : IRType) (value : Double)
  /-- A constant that is written as the text that it was made from. -/
  | verbatim (type : IRType) (content : String)
  /-- A constant from a row of bytes. -/
  | bytes (type : IRType) (content : List UInt8)
  /-- A constant from the values of its elements. -/
  | aggregate (type : IRType) (elements : List Operand)
  /-- A vector constant that is one item throughout. -/
  | repeated (size : Nat) (element : IRType) (item : Operand)
  /-- A constant made from a value of another kind, which is held for its text. -/
  | held (type : IRType) (place : HeldId) (kind : String)
  /-- The address of a global of a module. -/
  | global (symbol : SymbolRef) (valueType : IRType)
  /-- The address of a routine of a module. -/
  | routine (symbol : SymbolRef) (signature : IRType)
  /-- The address of a global as a pointer of another type. -/
  | globalAs (symbol : SymbolRef) (valueType target : IRType)
  /-- The number of bytes of a type. -/
  | sizeOf (type : IRType)
  /-- A parameter of a routine. -/
  | parameter (routine : SymbolRef) (name : String) (type : IRType)
  /-- The result of an instruction of a routine. -/
  | result (routine : SymbolRef) (name : String) (type : IRType) (sort : ResultSort)
  /-- A block of a routine. -/
  | block (place : BlockRef)
  deriving Repr, Inhabited

namespace Operand

/-! ## Constants -/

/-- The type of integers that measure memory. -/
def wordType : IRType := .int 64

/-- The least non-negative or signed representative of an integer modulo `2 ^ width`; a single
bit stays non-negative. A number of fewer bits than the width stays as it is, so that the power
is not computed for it. -/
def wrap (width : Nat) (value : Int) : Int :=
  if width ≤ 1 then value % (Nat.pow 2 width : Nat)
  else if value.natAbs.log2 + 1 < width then value
  else value.bmod (Nat.pow 2 width)

/-- A wider integer wraps to the representative nearest to zero. -/
theorem wrap_eq_bmod {width : Nat} (h : 1 < width) (value : Int) :
    wrap width value = value.bmod (Nat.pow 2 width) := by
  have wide : ¬ width ≤ 1 := Nat.not_le.mpr h
  simp only [wrap, wide, if_false]
  split
  next short =>
    obtain ⟨half, rfl⟩ : ∃ half, width = half + 1 := ⟨width - 1, by omega⟩
    have below : value.natAbs < Nat.pow 2 half :=
      Nat.lt_of_lt_of_le Nat.lt_log2_self (Nat.pow_le_pow_right (by decide) (by omega))
    have twice : Nat.pow 2 (half + 1) = 2 * Nat.pow 2 half := Nat.mul_comm _ _
    rw [twice]
    generalize Nat.pow 2 half = bound at below
    refine (Int.bmod_eq_of_le ?_ ?_).symm <;> omega
  next => rfl

/-- An integer constant, wrapped to its width. -/
def wrapped (width : Nat) (value : Int) : Operand :=
  .integer (.int width) (wrap width value)

/-- An integer constant, wrapped to a width that has to be no negative number. -/
def wrappedAt (width value : Int) : Except Fault Operand :=
  if width < 0 then .error .failedCheck else .ok (wrapped width.toNat value)

/-- The single-bit constant of a truth value. -/
def bit (value : Bool) : Operand :=
  .integer (.int 1) (if value then 1 else 0)

/-- The null pointer of a pointer type. -/
def null (type : IRType) : Operand :=
  .absent type

/-- The constant of a type that is one number throughout. -/
def filled (value : Int) : IRType → Except Fault Operand
  | .void => .error .failedCheck
  | .vector size element => do
      let item ← filled value element
      return .aggregate (.vector size element) (List.replicate size item)
  | type => .ok (.integer type value)

/-- The zero of a type. -/
def zero : IRType → Except Fault Operand
  | .void => .error .failedCheck
  | .int width => .ok (.integer (.int width) 0)
  | .vector size element => do return .repeated size element (← zero element)
  | type => .ok (.absent type)

/-- Whether an operand is the address of a symbol of a module. -/
def isSymbol : Operand → Bool
  | .global .. | .routine .. => true
  | _ => false

/-- Whether an operand is a constant. -/
def isConstant : Operand → Bool
  | .absent _ | .undefined _ | .truth .. | .integer .. | .real .. | .verbatim .. | .bytes ..
  | .aggregate .. | .repeated .. | .held .. | .globalAs .. | .sizeOf _ => true
  | .global .. | .routine .. | .parameter .. | .result .. | .block _ => false

/-- Whether an operand is a constant made from a number that equals zero. -/
def isZeroNumber : Operand → Bool
  | .truth _ value => !value
  | .integer _ value => value == 0
  | .real _ value => value.isZero
  | _ => false

/-- The name of the class of an operand. -/
def className : Operand → String
  | .global .. => "GlobalVariable"
  | .routine .. => "Function"
  | .parameter .. => "Argument"
  | .result _ _ _ sort => sort.className
  | .block _ => "Block"
  | .globalAs .. | .sizeOf _ => "FormattedConstant"
  | _ => "Constant"

/-! ## Types -/

/-- The type of an operand. -/
def type : Operand → IRType
  | .absent type | .undefined type | .truth type _ | .integer type _ | .real type _
  | .verbatim type _ | .bytes type _ | .aggregate type _ | .held type _ _ => type
  | .repeated size element _ => .vector size element
  | .global _ valueType => .pointer valueType
  | .routine _ signature => .pointer signature
  | .globalAs _ _ target => target
  | .sizeOf _ => wordType
  | .parameter _ _ type | .result _ _ type _ => type
  | .block place => .label place

/-! ## Text -/

/-- The text of a floating-point constant: the bits of the double that is left after rounding to
the type. A number too large for sixteen bits has no text; one too large for thirty-two bits
becomes an infinity. -/
def realText (type : IRType) (value : Double) : Except Fault String :=
  match type with
  | .half =>
      match value.narrow? .half with
      | some rounded => .ok rounded.hexText
      | none => .error .tooLargeForHalf
  | .float => .ok ((value.narrow? .single).getD (.infinity value.isNegative)).hexText
  | _ => .ok value.hexText

/-- The text of a constant without content. -/
def absentText : IRType → String
  | .int _ => "0"
  | .half | .float | .double => "0.0"
  | .pointer _ => "null"
  | _ => "zeroinitializer"

/-- Whether constants of a type are written element by element. -/
def hasElements : IRType → Bool
  | .array .. | .vector .. | .struct _ => true
  | _ => false

/-- The brackets around the elements of a constant. -/
def brackets : IRType → String × String
  | .vector .. => ("<", ">")
  | .struct _ => ("\x7b", "\x7d")
  | _ => ("[", "]")

/-- The texts of the elements of a constant between brackets. -/
def bracketed (type : IRType) (items : List String) : String :=
  (brackets type).1 ++ ", ".intercalate items ++ (brackets type).2

/-- The text of a constant from a truth value. -/
def truthText (type : IRType) (value : Bool) : Except Fault String :=
  match type with
  | .int _ => .ok (if value then "true" else "false")
  | .half | .float | .double =>
      realText type ((Double.ofInt? (if value then 1 else 0)).getD .zero)
  | type =>
      if hasElements type then .error (.notIterable "bool")
      else .ok (if value then "True" else "False")

/-- The text of a constant from an integer. -/
def integerText (type : IRType) (value : Int) : Except Fault String :=
  match type with
  | .half | .float | .double =>
      match Double.ofInt? value with
      | some value => realText type value
      | none => .error (if type = .double then .tooLargeForDouble else .notPackable)
  | type =>
      if hasElements type then .error (.notIterable "int") else .ok (toString value)

/-- The text of a constant from a floating-point number. -/
def numberText (type : IRType) (value : Double) : Except Fault String :=
  if type.isFloat then realText type value
  else if hasElements type then .error (.notIterable "float")
  else .ok value.text

/-- The text of a constant that is written as it was made. Narrow floating-point numbers are not
read from texts, and a text has no elements. -/
def verbatimText (type : IRType) (content : String) : Except Fault String :=
  match type with
  | .half | .float => .error .notPackable
  | .double =>
      match Number.readDouble? content with
      | some value => realText type value
      | none => .error (.malformedFloat (Text.quoted content))
  | type =>
      if hasElements type then
        if content = "" then .ok (bracketed type []) else .error .missingAttribute
      else .ok content

/-- The text of a name of a routine. -/
def localText (name : String) : String :=
  "%" ++ Text.quotedName name

end Operand

end StructuredIR
