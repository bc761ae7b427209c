import StructuredIR.Reference

/-! # Types

The types of the assembly: integers of any width, floating-point numbers, pointers, arrays,
vectors, structures and functions. A basic block is a value too, and each block has a type of its
own, although all of them are written alike. -/

namespace StructuredIR

/-- The types of values. -/
inductive IRType where
  /-- An integer of a number of bits. -/
  | int (width : Nat)
  /-- A sixteen-bit floating-point number. -/
  | half
  /-- A thirty-two-bit floating-point number. -/
  | float
  /-- A sixty-four-bit floating-point number. -/
  | double
  /-- No value. -/
  | void
  /-- The block it belongs to. -/
  | label (block : BlockRef)
  /-- The address of a value. -/
  | pointer (target : IRType)
  /-- A number of values of one type. -/
  | array (size : Nat) (element : IRType)
  /-- A number of scalars that are operated on together. -/
  | vector (size : Nat) (element : IRType)
  /-- A sequence of values of given types. -/
  | struct (fields : List IRType)
  /-- A function; a variadic one takes further arguments. -/
  | function (result : IRType) (parameters : List IRType) (variadic : Bool)
  deriving Repr, Inhabited

namespace IRType

/-- The least number of items that is too large to be counted by an index. -/
def countLimit : Nat :=
  0x8000000000000000

/-! ## Equality -/

mutual

/-- Whether two types have the same structure. -/
def same : IRType → IRType → Bool
  | .int width, .int width' => width == width'
  | .half, .half => true
  | .float, .float => true
  | .double, .double => true
  | .void, .void => true
  | .label block, .label block' => block == block'
  | .pointer target, .pointer target' => same target target'
  | .array size element, .array size' element' => size == size' && same element element'
  | .vector size element, .vector size' element' => size == size' && same element element'
  | .struct fields, .struct fields' => sameAll fields fields'
  | .function result parameters variadic, .function result' parameters' variadic' =>
      same result result' && sameAll parameters parameters' && variadic == variadic'
  | _, _ => false

/-- Whether two lists of types agree entry by entry. -/
def sameAll : List IRType → List IRType → Bool
  | [], [] => true
  | type :: types, type' :: types' => same type type' && sameAll types types'
  | _, _ => false

end

mutual

/-- Types of the same structure are equal. -/
theorem eq_of_same : ∀ left right : IRType, same left right = true → left = right
  | .int _, right, equal => by cases right <;> simp_all [same]
  | .half, right, equal => by cases right <;> simp_all [same]
  | .float, right, equal => by cases right <;> simp_all [same]
  | .double, right, equal => by cases right <;> simp_all [same]
  | .void, right, equal => by cases right <;> simp_all [same]
  | .label _, right, equal => by cases right <;> simp_all [same]
  | .pointer target, right, equal => by
      cases right <;> simp only [same, Bool.false_eq_true] at equal
      rw [eq_of_same target _ equal]
  | .array _ element, right, equal => by
      cases right <;> simp only [same, Bool.false_eq_true, Bool.and_eq_true, beq_iff_eq] at equal
      rw [equal.1, eq_of_same element _ equal.2]
  | .vector _ element, right, equal => by
      cases right <;> simp only [same, Bool.false_eq_true, Bool.and_eq_true, beq_iff_eq] at equal
      rw [equal.1, eq_of_same element _ equal.2]
  | .struct fields, right, equal => by
      cases right <;> simp only [same, Bool.false_eq_true] at equal
      rw [eq_of_sameAll fields _ equal]
  | .function result parameters _, right, equal => by
      cases right <;> simp only [same, Bool.false_eq_true, Bool.and_eq_true, beq_iff_eq] at equal
      rw [eq_of_same result _ equal.1.1, eq_of_sameAll parameters _ equal.1.2, equal.2]

/-- Lists of types that agree entry by entry are equal. -/
theorem eq_of_sameAll : ∀ left right : List IRType, sameAll left right = true → left = right
  | [], right, equal => by cases right <;> simp_all [sameAll]
  | type :: types, right, equal => by
      cases right <;> simp only [sameAll, Bool.false_eq_true, Bool.and_eq_true] at equal
      rw [eq_of_same type _ equal.1, eq_of_sameAll types _ equal.2]

end

mutual

/-- Every type has the same structure as itself. -/
theorem same_self : ∀ type : IRType, same type type = true
  | .int _ | .half | .float | .double | .void | .label _ => by simp [same]
  | .pointer target => by simp [same, same_self target]
  | .array _ element => by simp [same, same_self element]
  | .vector _ element => by simp [same, same_self element]
  | .struct fields => by simp [same, sameAll_self fields]
  | .function result parameters _ => by simp [same, same_self result, sameAll_self parameters]

/-- Every list of types agrees with itself. -/
theorem sameAll_self : ∀ types : List IRType, sameAll types types = true
  | [] => by simp [sameAll]
  | type :: types => by simp [sameAll, same_self type, sameAll_self types]

end

/-- Equality of types is decided by `same`. -/
instance : DecidableEq IRType := fun left right =>
  decidable_of_iff (same left right = true)
    ⟨eq_of_same left right, fun equal => equal ▸ same_self left⟩

/-! ## Kinds -/

/-- Whether a type is an integer type. -/
def isInt : IRType → Bool
  | .int _ => true
  | _ => false

/-- The order of the floating-point types by precision. -/
def floatRank? : IRType → Option Nat
  | .half => some 0
  | .float => some 1
  | .double => some 2
  | _ => none

/-- Whether a type is a floating-point type. -/
def isFloat (type : IRType) : Bool :=
  type.floatRank?.isSome

/-- Whether a type is a pointer type. -/
def isPointer : IRType → Bool
  | .pointer _ => true
  | _ => false

/-- The type of addresses of values of a type; there is none for `void`. -/
def address? : IRType → Option IRType
  | .void => none
  | type => some (.pointer type)

/-- The function type of a function or of a pointer to one. -/
def signature? : IRType → Option (IRType × List IRType × Bool)
  | .function result parameters variadic => some (result, parameters, variadic)
  | .pointer (.function result parameters variadic) => some (result, parameters, variadic)
  | _ => none

mutual

/-- Whether a type is, or holds somewhere, a pointer to `void`. -/
def pointsToVoid : IRType → Bool
  | .pointer .void => true
  | .pointer target => pointsToVoid target
  | .array _ element | .vector _ element => pointsToVoid element
  | .struct fields => anyPointsToVoid fields
  | .function result parameters _ => pointsToVoid result || anyPointsToVoid parameters
  | _ => false

/-- Whether one of some types is, or holds somewhere, a pointer to `void`. -/
def anyPointsToVoid : List IRType → Bool
  | [] => false
  | type :: types => pointsToVoid type || anyPointsToVoid types

end

/-! ## Text -/

/-- Some texts with a comma and a blank between them. -/
def commaSeparated : List (List Char) → List Char
  | [] => []
  | [text] => text
  | text :: texts => text ++ ',' :: ' ' :: commaSeparated texts

mutual

/-- The characters of a type's text. -/
def chars : IRType → List Char
  | .int width => 'i' :: Nat.toDigits 10 width
  | .half => "half".toList
  | .float => "float".toList
  | .double => "double".toList
  | .void => "void".toList
  | .label _ => "label".toList
  | .pointer target => chars target ++ ['*']
  | .array size element =>
      '[' :: Nat.toDigits 10 size ++ ' ' :: 'x' :: ' ' :: chars element ++ [']']
  | .vector size element =>
      '<' :: Nat.toDigits 10 size ++ ' ' :: 'x' :: ' ' :: chars element ++ ['>']
  | .struct fields => '\x7b' :: commaSeparated (charsAll fields) ++ ['\x7d']
  | .function result parameters variadic =>
      let ellipsis := if variadic then [['.', '.', '.']] else []
      chars result ++ ' ' :: '(' :: commaSeparated (charsAll parameters ++ ellipsis) ++ [')']

/-- The characters of the texts of some types. -/
def charsAll : List IRType → List (List Char)
  | [] => []
  | type :: types => chars type :: charsAll types

end

/-- The text of a type. -/
def text (type : IRType) : String :=
  String.ofList type.chars

end IRType

end StructuredIR
