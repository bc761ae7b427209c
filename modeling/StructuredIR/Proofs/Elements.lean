import StructuredIR.Proofs.Calculations

/-! # Elements of arrays and structures

An element of an array or structure is taken out or replaced at an index that is known beforehand.
Arrays take an index from their start only. The fields of a structure may be counted from the end too,
with a negative index, and the instruction is given that index as it is.

* **`Operation.elementType?_eq_some`**: where an element is found, its position is the index, or the
  index counts the fields of a structure from the end.
* **`ElementAccess.accesses_element`**: an access that fails adds nothing; one that succeeds adds one
  instruction, for the element at such a position and with a value of its type. Its index lies within
  the array or structure exactly unless it counts from the end. -/

namespace StructuredIR

open Build (FailsIn bind_eq_ok lift_eq_ok)

/-! ## Positions of elements -/

/-- The types of the elements of an array or structure, in order. -/
def IRType.elements? : IRType → Option (List IRType)
  | .array size element => some (List.replicate size element)
  | .struct fields => some fields
  | _ => none

namespace Operation

/-- A field of a structure is found at its position, counted from the start or from the end. -/
theorem fieldAt?_eq_some {fields : List IRType} {index : Int} {type : IRType}
    (found : fieldAt? fields index = some type) :
    ∃ position : Nat, fields[position]? = some type ∧
      (index = position ∨ index = position - fields.length) := by
  unfold fieldAt? at found
  split at found
  next forwards => exact ⟨index.toNat, found, .inl (by omega)⟩
  next =>
    split at found
    next backwards => exact ⟨(index + fields.length).toNat, found, .inr (by omega)⟩
    next => cases found

/-- **An element is found at its position**, which is the index, or the index counts the fields of a
structure from the end. -/
theorem elementType?_eq_some {aggregate type : IRType} {elements : List IRType} {index : Int}
    (known : aggregate.elements? = some elements)
    (found : elementType? aggregate index = some type) :
    ∃ position : Nat, elements[position]? = some type ∧
      (index = position ∨ aggregate = .struct elements ∧ index = position - elements.length) := by
  cases aggregate with
  | array size element =>
      cases known
      rw [elementType?] at found
      split at found
      next within =>
        refine ⟨index.toNat, ?_, .inl (by omega)⟩
        rw [List.getElem?_replicate, if_pos (by omega), found]
      next => cases found
  | struct fields =>
      cases known
      obtain ⟨position, there, forwards | backwards⟩ := fieldAt?_eq_some found
      · exact ⟨position, there, .inl forwards⟩
      · exact ⟨position, there, .inr ⟨rfl, backwards⟩⟩
  | _ => cases known

/-- What is taken out has the type of an element. -/
theorem check_extractValue {aggregate : Operand} {index : Int} {type : IRType}
    (checked : (extractValue aggregate index).check = .ok type) :
    elementType? aggregate.type index = some type := by
  rw [check] at checked
  split at checked
  next found =>
    cases checked
    exact found
  next => cases checked

/-- What is put in has the type of an element, and the whole keeps its type. -/
theorem check_insertValue {aggregate element : Operand} {index : Int} {type : IRType}
    (checked : (insertValue aggregate element index).check = .ok type) :
    elementType? aggregate.type index = some element.type ∧ type = aggregate.type := by
  rw [check] at checked
  split at checked
  next expected found =>
    split at checked
    next same =>
      cases checked
      exact ⟨same ▸ found, rfl⟩
    next => cases checked
  next => cases checked

end Operation

namespace Generator

/-! ## Collections that are operands -/

/-- An operand with one element replaced, where the generator is not finished. -/
def insertInto (place : GeneratorId) (aggregate : Operand) (element index : Value) :
    Build Operand := do
  match aggregate.type with
  | .vector _ item =>
      let position ← position place
      let element ← coerce place element (some item)
      let index ← coerce place index (some (.int 32))
      Build.emit position (.insertElement aggregate element index)
  | .array _ item =>
      let position ← position place
      let element ← coerce place element (some item)
      Build.emit position (.insertValue aggregate element (← knownIndex index))
  | .struct fields =>
      let index ← knownIndex index
      let position ← position place
      let element ← coerce place element (some (← field fields index))
      Build.emit position (.insertValue aggregate element index)
  | type => Build.reject (.notAggregate "insert" type.text)

/-- An element of an operand, where the generator is not finished. -/
def extractFrom (place : GeneratorId) (aggregate : Operand) (index : Value) : Build Operand := do
  match aggregate.type with
  | .vector .. =>
      let position ← position place
      let index ← coerce place index (some (.int 32))
      Build.emit position (.extractElement aggregate index)
  | .array .. | .struct _ =>
      let position ← position place
      Build.emit position (.extractValue aggregate (← knownIndex index))
  | type => Build.reject (.notAggregate "extract" type.text)

/-- The field that is looked up is the one that is found. -/
theorem field_ok {fields : List IRType} {index : Int} {type : IRType}
    (looked : field fields index = .ok type) : Operation.fieldAt? fields index = some type := by
  rw [field] at looked
  split at looked
  next found =>
    cases looked
    exact found
  next => cases looked

end Generator

/-! ## Accesses -/

/-- What is done with an element of a collection. -/
inductive ElementAccess where
  /-- A value is put in its place. -/
  | insert (element : Value)
  /-- It is taken out. -/
  | extract

namespace ElementAccess

/-- A generator does something with the element of a collection at an index. -/
def run (place : GeneratorId) (collection index : Value) : ElementAccess → Build Value
  | insert element => Generator.insert place collection element index
  | extract => Generator.extract place collection index

/-- A generator that is not finished does something with the element of an operand. -/
def runOn (place : GeneratorId) (aggregate : Operand) (index : Value) : ElementAccess → Build Operand
  | insert element => Generator.insertInto place aggregate element index
  | extract => Generator.extractFrom place aggregate index

/-- A collection is coerced only where the generator is not finished, before anything else is done. -/
theorem run_eq (access : ElementAccess) (place : GeneratorId) (collection index : Value) :
    access.run place collection index = Generator.operandUnlessFinished place
      (do access.runOn place (← Generator.coerce place collection none) index) := by
  cases access <;> rfl

/-- **An instruction is an access** to the element of a type at an index of an operand. What is put in
is a value that is coerced to the type, once the code is as it was at the start. -/
inductive IsMade (place : GeneratorId) (aggregate : Operand) (index : Int) (type : IRType)
    (start : World) : ElementAccess → Instruction → Prop where
  /-- An element is replaced, and the whole is of the same type as before. -/
  | insert {value : Value} {element : Operand} {before after : World} {name : String} :
      SameCode start before → Generator.coerce place value (some type) before = .ok element after →
        element.type = type → IsMade place aggregate index type start (.insert value)
          ⟨name, aggregate.type, .insertValue aggregate element index⟩
  /-- An element is taken out. -/
  | extract {name : String} :
      IsMade place aggregate index type start .extract ⟨name, type, .extractValue aggregate index⟩

/-- A value stands for a number where it is used as an index, as long as the code is as in a world. -/
def StandsFor (index : Value) (number : Int) (world : World) : Prop :=
  ∃ reading read, SameCode world reading ∧ Generator.knownIndex index reading = .ok number read

/-- **All that has happened is an access** to the element of a type, where a generator was, at an index
that a value stands for. -/
def Accesses (access : ElementAccess) (place : GeneratorId) (aggregate : Operand) (index : Value)
    (number : Int) (type : IRType) (before after : World) : Prop :=
  StandsFor index number before ∧
    ∃ here made, (before.generator place).block = .operand (.block here) ∧
      access.IsMade place aggregate number type before made ∧
        ChangesRow here (· ++ [made]) before after

variable {place : GeneratorId} {collection index value : Value} {world after : World}

/-- An access that fails adds no instruction. -/
theorem failsIn_run (access : ElementAccess) :
    FailsIn SameCode (access.run place collection index) := by
  cases access with
  | insert element => exact Generator.failsIn_insert collection element index
  | extract => exact Generator.failsIn_extract collection index

/-- An instruction that is added behind changes of no code puts in a value for an element, if the value was
coerced to the only type that an element there can have. -/
theorem accesses_of_insertValue {element : Value} {aggregate made result : Operand} {number : Int}
    {type : IRType} {before coerced reached : World} {here : BlockRef}
    (stands : StandsFor index number world)
    (positioned : (world.generator place).block = .operand (.block here))
    (same : SameCode world before)
    (coercing : Generator.coerce place element (some type) before = .ok made coerced)
    (meanwhile : SameCode world reached)
    (run : Build.emit here (.insertValue aggregate made number) reached = .ok result after)
    (only : ∀ found, Operation.elementType? aggregate.type number = some found → type = found) :
    Operation.elementType? aggregate.type number = some type ∧
      (insert element).Accesses place aggregate index number type world after := by
  obtain ⟨⟨name, whole, operation⟩, does, checked, -, -, changes⟩ := Build.emit_ok run
  cases does
  obtain ⟨found, rfl⟩ := Operation.check_insertValue checked
  have typed : type = made.type := only _ found
  exact ⟨typed ▸ found, stands, here, _, positioned, .insert same coercing typed.symm,
    changes.behind meanwhile⟩

/-- **What is put into an array or structure** takes the place of an element. -/
theorem accesses_insertInto {element : Value} {aggregate result : Operand} {between : World}
    {elements : List IRType} (same : SameCode world between)
    (known : aggregate.type.elements? = some elements)
    (run : Generator.insertInto place aggregate element index between = .ok result after) :
    ∃ number type, Operation.elementType? aggregate.type number = some type ∧
      (insert element).Accesses place aggregate index number type world after := by
  -- For an array the value is coerced first, for a structure the index has to be known first.
  cases shape : aggregate.type with
  | array size item =>
      rw [Generator.insertInto, shape] at run
      obtain ⟨here, _, positioning, run⟩ := bind_eq_ok.mp run
      obtain ⟨positioned, rfl⟩ := Generator.position_ok positioning
      obtain ⟨made, coerced, coercing, run⟩ := bind_eq_ok.mp run
      obtain ⟨number, read, indexed, run⟩ := bind_eq_ok.mp run
      have first : SameCode world coerced :=
        IsEffect.trans same ((Generator.leads_coerce place element _).of_ok coercing)
      have second : SameCode world read :=
        IsEffect.trans first ((Generator.leads_knownIndex index).of_ok indexed)
      rw [← shape]
      refine ⟨number, item, accesses_of_insertValue ⟨_, _, first, indexed⟩
        (same.generator place ▸ positioned) same coercing second run fun found there => ?_⟩
      rw [shape, Operation.elementType?] at there
      split at there
      · exact Option.some.inj there
      · cases there
  | struct fields =>
      rw [Generator.insertInto, shape] at run
      obtain ⟨number, read, indexed, run⟩ := bind_eq_ok.mp run
      obtain ⟨here, _, positioning, run⟩ := bind_eq_ok.mp run
      obtain ⟨positioned, rfl⟩ := Generator.position_ok positioning
      obtain ⟨type, _, lifted, run⟩ := bind_eq_ok.mp run
      obtain ⟨looked, rfl⟩ := lift_eq_ok.mp lifted
      obtain ⟨made, coerced, coercing, run⟩ := bind_eq_ok.mp run
      have first : SameCode world read :=
        IsEffect.trans same ((Generator.leads_knownIndex index).of_ok indexed)
      have second : SameCode world coerced :=
        IsEffect.trans first ((Generator.leads_coerce place element _).of_ok coercing)
      rw [← shape]
      refine ⟨number, type, accesses_of_insertValue ⟨_, _, same, indexed⟩
        (first.generator place ▸ positioned) first coercing second run fun found there => ?_⟩
      rw [shape] at there
      exact Option.some.inj ((Generator.field_ok looked).symm.trans there)
  | _ =>
      rw [shape] at known
      cases known

/-- **What is taken out of an array or structure** is an element. -/
theorem accesses_extractFrom {aggregate result : Operand} {between : World}
    {elements : List IRType} (same : SameCode world between)
    (known : aggregate.type.elements? = some elements)
    (run : Generator.extractFrom place aggregate index between = .ok result after) :
    ∃ number type, Operation.elementType? aggregate.type number = some type ∧
      extract.Accesses place aggregate index number type world after := by
  have emits : (do
      let here ← Generator.position place
      Build.emit here (.extractValue aggregate (← Generator.knownIndex index)) : Build Operand)
        between = .ok result after := by
    rw [Generator.extractFrom] at run
    cases shape : aggregate.type with
    | array | struct => rwa [shape] at run
    | _ =>
        rw [shape] at known
        cases known
  obtain ⟨here, _, positioning, run⟩ := bind_eq_ok.mp emits
  obtain ⟨positioned, rfl⟩ := Generator.position_ok positioning
  obtain ⟨number, read, indexed, run⟩ := bind_eq_ok.mp run
  have later : SameCode world read :=
    IsEffect.trans same ((Generator.leads_knownIndex index).of_ok indexed)
  obtain ⟨⟨name, type, operation⟩, does, checked, -, -, changes⟩ := Build.emit_ok run
  cases does
  exact ⟨number, type, Operation.check_extractValue checked, ⟨_, _, same, indexed⟩, here, _,
    same.generator place ▸ positioned, .extract, changes.behind later⟩

/-- An access of a generator that is not finished is one to what its collection is coerced to. -/
theorem run_ok {access : ElementAccess}
    (run : access.run place collection index world = .ok value after) :
    (world.generator place).isFinished = true ∧ after = world ∨
      (world.generator place).isFinished = false ∧ ∃ aggregate between,
        Generator.coerce place collection none world = .ok aggregate between ∧
          ∀ elements, aggregate.type.elements? = some elements → ∃ number type,
            Operation.elementType? aggregate.type number = some type ∧
              access.Accesses place aggregate index number type world after := by
  rw [run_eq] at run
  rcases Generator.operandUnlessFinished_ok run with finished | ⟨unfinished, result, acted⟩
  · exact .inl finished
  obtain ⟨aggregate, between, coerced, acted⟩ := bind_eq_ok.mp acted
  have same : SameCode world between := (Generator.leads_coerce place collection _).of_ok coerced
  refine .inr ⟨unfinished, aggregate, between, coerced, fun elements known => ?_⟩
  cases access with
  | insert element => exact accesses_insertInto same known acted
  | extract => exact accesses_extractFrom same known acted

/-- **An access is one to an element**, whatever is given as the collection and as the index. One that
fails adds nothing. One that succeeds adds an instruction unless the generator is finished. For an array
or structure the instruction works on the element at a position, and what is put in was coerced to the
type at this position and has it. The index of the instruction is the position, or it counts the fields
of a structure from the end; it lies within the array or structure exactly if it does not. -/
theorem accesses_element (access : ElementAccess) (place : GeneratorId) (collection index : Value)
    (world : World) :
    (∀ fault after, access.run place collection index world = .error fault after →
      SameCode world after) ∧
    ∀ value after, access.run place collection index world = .ok value after →
      (world.generator place).isFinished = true ∧ after = world ∨
        (world.generator place).isFinished = false ∧ ∃ aggregate between,
          Generator.coerce place collection none world = .ok aggregate between ∧
            ∀ elements, aggregate.type.elements? = some elements →
              ∃ (number : Int) (type : IRType) (position : Nat),
                access.Accesses place aggregate index number type world after ∧
                elements[position]? = some type ∧
                (number = position ∨
                  aggregate.type = .struct elements ∧ number = position - elements.length) ∧
                (0 ≤ number ∧ number < elements.length ↔
                  0 ≤ number ∨ aggregate.type ≠ .struct elements) := by
  refine ⟨access.failsIn_run world, fun value after run => ?_⟩
  rcases run_ok run with finished | ⟨unfinished, aggregate, between, coerced, reaches⟩
  · exact .inl finished
  refine .inr ⟨unfinished, aggregate, between, coerced, fun elements known => ?_⟩
  obtain ⟨number, type, found, accesses⟩ := reaches elements known
  obtain ⟨position, there, counted⟩ := Operation.elementType?_eq_some known found
  obtain ⟨within, -⟩ := List.getElem?_eq_some_iff.mp there
  refine ⟨number, type, position, accesses, there, counted, ?_⟩
  rcases counted with forwards | ⟨struct, backwards⟩
  · exact iff_of_true (by omega) (.inl (by omega))
  · refine iff_of_false (by omega) ?_
    rintro (forwards | other)
    · omega
    · exact other struct

/-- A structure of two integers. -/
def pair : IRType :=
  .struct [.int 32, .int 64]

/-- A five that is put into the second field of a structure is one of 64 bits. -/
theorem accesses_secondField :
    (insert (.integer 5)).Accesses 0 (.undefined pair) (.integer 1) 1 (.int 64)
      FunctionBody.oneFunction
      (((insert (.integer 5)).run 0 (.operand (.undefined pair)) (.integer 1)).after
        FunctionBody.oneFunction) := by
  have done : ((insert (.integer 5)).run 0 (.operand (.undefined pair)) (.integer 1)).succeeds
      FunctionBody.oneFunction = true := by
    decide +kernel
  obtain ⟨value, run⟩ := Build.ok_of_succeeds done
  rcases ((insert (.integer 5)).accesses_element 0 (.operand (.undefined pair)) (.integer 1)
    FunctionBody.oneFunction).2 value _ run with ⟨finished, -⟩ | ⟨-, aggregate, _, coerced, reaches⟩
  · cases finished
  cases coerced
  obtain ⟨number, type, position, accesses, there, counted, -⟩ := reaches _ rfl
  obtain ⟨_, _, -, indexed⟩ := accesses.1
  cases indexed
  obtain ⟨within, -⟩ := List.getElem?_eq_some_iff.mp there
  have second : position = 1 := by
    simp only [List.length_cons, List.length_nil] at within counted
    omega
  subst second
  cases there
  exact accesses

/-- **A negative index of a structure is used as it is**, while an array refuses it. -/
theorem accesses_fromEnd :
    (((insert (.integer 5)).run 0 (.operand (.undefined pair)) (.integer (-1))).succeeds
        FunctionBody.oneFunction = true ∧
      (((((insert (.integer 5)).run 0 (.operand (.undefined pair)) (.integer (-1))).after
        FunctionBody.oneFunction).row FunctionBody.onlyBody.entry).map Instruction.operation) =
          [.insertValue (.undefined pair) (.integer (.int 64) 5) (-1)]) ∧
    ((extract.run 0 (.operand (.undefined pair)) (.integer (-1))).succeeds
        FunctionBody.oneFunction = true ∧
      ((((extract.run 0 (.operand (.undefined pair)) (.integer (-1))).after
        FunctionBody.oneFunction).row FunctionBody.onlyBody.entry).map Instruction.operation) =
          [.extractValue (.undefined pair) (-1)]) ∧
    (extract.run 0 (.operand (.undefined (.array 2 (.int 64)))) (.integer (-1))).succeeds
      FunctionBody.oneFunction = false :=
  ⟨⟨by decide +kernel, rfl⟩, ⟨by decide +kernel, rfl⟩, by decide +kernel⟩

end ElementAccess

end StructuredIR
