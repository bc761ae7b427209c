import StructuredIR.Generator.Basic

/-! # Casts

Conversions of operands to other types. A conversion to the type that an operand has already
gives the operand itself. -/

namespace StructuredIR

namespace Generator

/-- A conversion at a place. -/
def convertAt (place : BlockRef) (operation : CastOperation) (value : Operand) (target : IRType) :
    Build Operand := do
  if value.type = target then return value
  Build.emit place (.cast operation value target)

/-- A conversion where a generator is. -/
def convert (place : GeneratorId) (operation : CastOperation) (value : Operand)
    (target : IRType) : Build Operand := do
  convertAt (← position place) operation value target

/-- The bits of a value read as another type. -/
def bitcast (place : GeneratorId) (value type : Value) : Build Value :=
  operandUnlessFinished place do
    let position ← position place
    let value ← coerce place value none
    convertAt position .bitcast value (← type.asType "bitcast")

/-- A conversion of a number by one operation for integers and another for floating-point
numbers. -/
def resize (place : GeneratorId) (name : String) (onInts onFloats : CastOperation)
    (value type : Value) : Build Value :=
  operandUnlessFinished place do
    let value ← coerce place value none
    let target ← type.asType name
    if value.type.isInt then convert place onInts value target
    else if value.type.isFloat then convert place onFloats value target
    else Build.reject (.notNumeric name value.type.text)

/-- The integer that a floating-point number is cut down to. -/
def toInteger (place : GeneratorId) (value type : Value) (signed : Bool) : Build Value :=
  operandUnlessFinished place do
    let value ← coerce place value none
    unless value.type.isFloat do Build.reject (.notFloat "ftoi" value.type.text)
    let target ← type.asType "ftoi"
    convert place (if signed then .fptosi else .fptoui) value target

/-- The floating-point number of an integer. -/
def toFloat (place : GeneratorId) (value type : Value) (signed : Bool) : Build Value :=
  operandUnlessFinished place do
    let value ← coerce place value none
    unless value.type.isInt do Build.reject (.notInteger "itof" value.type.text)
    let target ← type.asType "itof"
    convert place (if signed then .sitofp else .uitofp) value target

/-- The conversion from one type to another one of its kind, chosen by their sizes. -/
def castBetween? (source target : IRType) : Option CastOperation :=
  match source, target with
  | .int sourceWidth, .int targetWidth =>
      some (if targetWidth < sourceWidth then .trunc else .sext)
  | .pointer _, .pointer _ => some .bitcast
  | source, target =>
      match source.floatRank?, target.floatRank? with
      | some sourceRank, some targetRank =>
          some (if targetRank < sourceRank then .fptrunc else .fpext)
      | _, _ => none

/-- An operand resized within its kind, whether or not the generator is finished. -/
def castOperand (place : GeneratorId) (value : Operand) (target : IRType) : Build Operand := do
  if value.type = target then return value
  match castBetween? value.type target with
  | some operation => convert place operation value target
  | none => Build.reject (.castKinds value.type.text target.text)

/-- A value resized within its kind. -/
def cast (place : GeneratorId) (value type : Value) : Build Value :=
  operandUnlessFinished place do
    let value ← coerce place value none
    castOperand place value (← type.asType "cast")

end Generator

end StructuredIR
