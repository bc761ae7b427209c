import StructuredIR.Build
import StructuredIR.Signature

/-! # Coercion

Every value that an instruction or a global uses is coerced to an operand, of a wanted type if
one is given. Operands and functions stay what they are; the other rules are tried by the kind of
the value, and texts become pooled strings. Nothing but the string pool changes. -/

namespace StructuredIR

namespace Coercion

/-- What can be coerced when no type is wanted. -/
def coercible : String :=
  "an IR value, a number, a list, a string, True/False/None"

/-- The complaint that a value cannot become an operand of the wanted type. -/
def notCoercible (value : Value) (wanted : Option IRType) : Fault :=
  let expected :=
    match wanted with
    | some type => type.text
    | none => coercible
  .rejected (.coercion expected value.typeName)

/-- The operand of a truth value: a single bit where no type or an integer type is wanted. -/
def ofTruth (value : Bool) (wanted : Option IRType) : Except Fault Operand :=
  if wanted.all IRType.isInt then .ok (.bit value) else .error (notCoercible (.truth value) wanted)

/-- The operand of an integer: a number of the wanted type, 32 bits wide by default, or the null
pointer for zero. -/
def ofInteger (value : Int) (wanted : Option IRType) : Except Fault Operand :=
  let refused : Except Fault Operand := .error (notCoercible (.integer value) wanted)
  match wanted with
  | none => .ok (.wrapped 32 value)
  | some (.int width) => .ok (.wrapped width value)
  | some (.pointer target) => if value = 0 then .ok (.null (.pointer target)) else refused
  | some type =>
      if type.isFloat then
        match Double.ofInt? value with
        | some number => .ok (.real type number)
        | none => .error .tooLargeForDouble
      else refused

/-- The operand of a floating-point number: a number of the wanted type, a double by default, or
the null pointer for zero. -/
def ofReal (value : Double) (wanted : Option IRType) : Except Fault Operand :=
  let refused : Except Fault Operand := .error (notCoercible (.real value) wanted)
  match wanted with
  | none => .ok (.real .double value)
  | some (.int width) => do return .wrapped width (← Value.integerOfReal value)
  | some (.pointer target) => if value.isZero then .ok (.null (.pointer target)) else refused
  | some type => if type.isFloat then .ok (.real type value) else refused

/-- The operand of nothing: the null pointer of a wanted pointer type. -/
def ofNone (wanted : Option IRType) : Except Fault Operand :=
  match wanted with
  | some (.pointer target) => .ok (.null (.pointer target))
  | _ => .error (notCoercible .none wanted)

/-- A pooled string as a pointer of the wanted type. -/
def pooled (symbol : SymbolRef) (valueType : IRType) (wanted : Option IRType) : Operand :=
  match wanted with
  | some type =>
      if type = .pointer valueType then .global symbol valueType
      else .globalAs symbol valueType type
  | none => .global symbol valueType

/-- The operand of a text: the address of a pooled string. -/
def ofPhrase (pool : Option LibraryId) (phrase : Phrase) (wanted : Option IRType) :
    Build Operand := do
  unless wanted.all IRType.isPointer do throw (notCoercible phrase.value wanted)
  match pool with
  | some place =>
      let symbol ← Build.internString place phrase
      return pooled symbol (StringPool.constant phrase.content).valueType wanted
  | none => Build.reject (.unpooledText phrase.quoted)

/-- The element type of a wanted array type, or else what `first` gives. -/
def wantedElement (value : Value) (wanted : Option IRType) (first : Build IRType) :
    Build IRType :=
  match wanted with
  | none => first
  | some (.array _ element) => pure element
  | some _ => throw (notCoercible value wanted)

/-- The constant array of some elements. -/
def arrayOf (element : IRType) (elements : List Operand) : Operand :=
  .aggregate (.array elements.length element) elements

/-- The operand of a value that is no row, of the wanted type if there is one. -/
def coerceSingle (pool : Option LibraryId) (value : Value) (wanted : Option IRType) :
    Build Operand :=
  match value with
  | .operand known => pure known
  | .function reference => do
      let world ← get
      return world.routineOperand (world.functionSymbol reference)
  | .truth value => ofTruth value wanted
  | .integer value => ofInteger value wanted
  | .real value => ofReal value wanted
  | .none => ofNone wanted
  | .text content => ofPhrase pool (.text content) wanted
  | .visibility known => ofPhrase pool (.visibility known) wanted
  | .policy known => ofPhrase pool (.policy known) wanted
  | value => throw (notCoercible value wanted)

/-- The operands of some values that are no rows, of one wanted type. -/
def coerceSingles (pool : Option LibraryId) (values : List Value) (wanted : IRType) :
    Build (List Operand) :=
  values.mapM fun value => coerceSingle pool value (some wanted)

mutual

/-- The operand of a value, of the wanted type if there is one and the value has no type. -/
def coerce (pool : Option LibraryId) (value : Value) (wanted : Option IRType) : Build Operand :=
  match value with
  | .list items => do
      let element ← wantedElement (.list items) wanted (coerceFirst pool items)
      return arrayOf element (← coerceAll pool items element)
  | .tuple items => do
      let element ← wantedElement (.tuple items) wanted (coerceFirst pool items)
      return arrayOf element (← coerceAll pool items element)
  | .resolution kind target => do
      let element ← wantedElement (.resolution kind target) wanted
        (Operand.type <$> coerceSingle pool (.symbolKind kind) none)
      let first ← coerceSingle pool (.symbolKind kind) (some element)
      return arrayOf element [first, ← coerce pool target (some element)]
  | .liveRow row => do
      let items := (← get).rowItems row
      let element ← wantedElement (.liveRow row) wanted
        (match items with
        | [] => Build.reject .emptyArray
        | first :: _ => Operand.type <$> coerceSingle pool first none)
      return arrayOf element (← coerceSingles pool items element)
  | value => coerceSingle pool value wanted

/-- The type of the operand of the first of some values. -/
def coerceFirst (pool : Option LibraryId) : List Value → Build IRType
  | [] => Build.reject .emptyArray
  | value :: _ => do return (← coerce pool value none).type

/-- The operands of some values of one wanted type. -/
def coerceAll (pool : Option LibraryId) (values : List Value) (wanted : IRType) :
    Build (List Operand) :=
  match values with
  | [] => pure []
  | value :: values => do
      return (← coerce pool value (some wanted)) :: (← coerceAll pool values wanted)

end

/-- The operand of a value for an operation that takes the wanted type, if any, as a value. -/
def coerceAs (pool : Option LibraryId) (value type : Value) : Build Operand := do
  match type with
  | .none => coerce pool value none
  | type => coerce pool value (some (← type.asType "convert"))

end Coercion

end StructuredIR
