import StructuredIR.Proofs.Discipline.Basic
import StructuredIR.Proofs.Symbols

/-! # Disciplines and straight-line operations

Every operation of generators on numbers, types, memory and aggregates runs under a discipline, with
values that may be used; so do calls. The operands of what is emitted come from values that were
coerced, from instructions that were emitted before, from routines that were declared for the
purpose, and from constants that cite nothing. -/

namespace StructuredIR

open Build (Leads Follows bind_eq_ok get_eq_ok pure_eq_ok lift_eq_ok throw_ne_ok)

namespace Discipline

variable {discipline : Discipline} {place : GeneratorId} {block : BlockRef}

/-! ## Coercions -/

/-- A generator coerces a value that may be used, and what it becomes is what a coercion makes of it
there. -/
theorem follows_coerce {stop : World → Bool} {world : World} {value : Value}
    (valid : discipline.Course world world) (has : discipline.Has world place)
    (fits : discipline.FitsValue value) (wanted : Option IRType) :
    Follows stop discipline.Course world (Generator.coerce place value wanted)
      (Generator.coerce place value wanted)
      fun operand _ => discipline.Fits operand ∧ Coercion.Makes world value wanted operand := by
  refine .get ?_
  have := discipline.symbols (has.serves valid)
  have leads : Leads (Along discipline.Course)
      (Coercion.coerce (some (world.generator place).function.owner) value wanted) :=
    Coercion.leads_coerce _ value wanted
  refine .of_step (leads world valid) fun operand final run => ⟨fun symbol cites => ?_, ?_⟩
  · exact fits world symbol ((Coercion.coerce_cites run).mp cites)
  · exact ⟨_, final, run⟩

/-- A value that may be used is coerced. -/
theorem runs_coerce {value : Value} (fits : discipline.FitsValue value) (wanted : Option IRType) :
    Runs (discipline.having place) (Generator.coerce place value wanted) discipline.Fits :=
  fun _ _ valid has => (follows_coerce valid has fits wanted).weaken fun _ _ _ made => made.1

/-- Values that may be used are coerced. -/
theorem runs_coerceEach {values : List Value}
    (fits : ∀ value ∈ values, discipline.FitsValue value) :
    Runs (discipline.having place) (Generator.coerceEach place values)
      fun operands => ∀ operand ∈ operands, discipline.Fits operand := by
  induction values with
  | nil => exact Runs.pure nofun
  | cons value values ih =>
      obtain ⟨first, rest⟩ := List.forall_mem_cons.mp fits
      refine (runs_coerce first none).bind fun operand fitsFirst => ?_
      refine (ih rest).bind fun operands fitsRest => ?_
      exact Runs.pure (List.forall_mem_cons.mpr ⟨fitsFirst, fitsRest⟩)

/-- A value that may be used is coerced to a pointer. -/
theorem runs_coercePointer {value : Value} (name : String)
    (fits : discipline.FitsValue value) :
    Runs (discipline.having place) (Generator.coercePointer place name value)
      discipline.Fits := by
  refine (runs_coerce fits none).bind fun pointer fits => ?_
  split
  · exact Runs.pure fits
  · exact Runs.reject

/-- Two values that may be used are coerced together. -/
theorem runs_coercePair {left right : Value} (fits : discipline.FitsValue left)
    (fitsToo : discipline.FitsValue right) :
    Runs (discipline.having place) (Generator.coercePair place left right)
      fun operands => discipline.Fits operands.1 ∧ discipline.Fits operands.2 := by
  unfold Generator.coercePair
  split
  · refine (runs_coerce fitsToo _).bind fun right fitsToo => ?_
    exact Runs.pure ⟨fits.operand, fitsToo⟩
  · refine (runs_coerce fits _).bind fun left fits => ?_
    exact Runs.pure ⟨fits, fitsToo.operand⟩
  · refine (runs_coerce fits _).bind fun left fits => ?_
    refine (runs_coerce fitsToo _).bind fun right fitsToo => ?_
    exact Runs.pure ⟨fits, fitsToo⟩

/-- Indices that may be used are coerced. -/
theorem runs_coerceIndices {indices : List Value}
    (fits : ∀ index ∈ indices, discipline.FitsValue index) :
    Runs (discipline.having place) (Generator.coerceIndices place indices)
      fun operands => ∀ operand ∈ operands, discipline.Fits operand := by
  induction indices with
  | nil => exact Runs.pure nofun
  | cons index indices ih =>
      obtain ⟨first, rest⟩ := List.forall_mem_cons.mp fits
      refine (runs_coerce first _).bind fun operand fitsFirst => ?_
      refine (ih rest).bind fun operands fitsRest => ?_
      exact Runs.pure (List.forall_mem_cons.mpr ⟨fitsFirst, fitsRest⟩)

/-- An argument that may be used is coerced. -/
theorem runs_coerceArgument {value : Value} (fits : discipline.FitsValue value)
    (parameter : IRType) :
    Runs (discipline.having place) (Generator.coerceArgument place value parameter)
      discipline.Fits := by
  unfold Generator.coerceArgument
  split
  · exact Runs.pure (fits_of_isAtom rfl)
  · refine (runs_coerce fits _).bind fun argument fits => ?_
    split
    · exact Runs.pure fits
    · exact Runs.reject

/-- Arguments that may be used are coerced. -/
theorem runs_coerceArguments (parameters : List IRType) {values : List Value}
    (fits : ∀ value ∈ values, discipline.FitsValue value) :
    Runs (discipline.having place) (Generator.coerceArguments place parameters values)
      fun operands => ∀ operand ∈ operands, discipline.Fits operand := by
  induction parameters generalizing values with
  | nil => exact runs_coerceEach fits
  | cons parameter parameters ih =>
      cases values with
      | nil => exact runs_coerceEach fits
      | cons value values =>
          obtain ⟨first, rest⟩ := List.forall_mem_cons.mp fits
          refine (runs_coerceArgument first parameter).bind fun operand fitsFirst => ?_
          refine (ih rest).bind fun operands fitsRest => ?_
          exact Runs.pure (List.forall_mem_cons.mpr ⟨fitsFirst, fitsRest⟩)

/-! ## Numbers and bits -/

/-- An arithmetic operation runs. -/
theorem runs_arithmetic (operation : Arithmetic) (signed : Bool) {left right : Value}
    (fits : discipline.FitsValue left) (fitsToo : discipline.FitsValue right) :
    Runs (discipline.having place) (Generator.arithmetic place operation signed left right)
      discipline.Fits := by
  refine (runs_coercePair fits fitsToo).bind fun operands fits => ?_
  obtain ⟨left, right⟩ := operands
  dsimp only
  split
  · exact runs_straight rfl (by simp [Operation.uses, fits.1, fits.2])
  · exact Runs.reject

/-- A quotient runs. -/
theorem runs_divide (operation : Arithmetic) (signed : Bool) {left right : Value}
    (fits : discipline.FitsValue left) (fitsToo : discipline.FitsValue right) :
    Runs (discipline.having place) (Generator.divide place operation left right signed)
      fun _ => True := by
  unfold Generator.divide
  split
  · exact Runs.reject
  · exact runs_operandUnlessFinished (runs_arithmetic operation signed fits fitsToo)

/-- A negation runs. -/
theorem runs_negation {value : Value} (fits : discipline.FitsValue value) :
    Runs (discipline.having place) (Generator.negation place value) fun _ => True := by
  refine runs_operandUnlessFinished ((runs_coerce fits none).bind fun value fits => ?_)
  have plain (number : Operand) (atom : number.isAtom = true) :
      ∀ operand ∈ [number, value], discipline.Fits operand := by
    simp [fits_of_isAtom atom, fits]
  split
  · exact runs_straight rfl (plain (.integer value.type 0) rfl)
  · split
    · exact runs_straight rfl (plain (.real value.type .zero) rfl)
    · exact Runs.reject

/-- A change of the value at an address runs. -/
theorem runs_change (name : String) (operation : Arithmetic) {pointer amount : Value}
    (fits : discipline.FitsValue pointer) (fitsToo : discipline.FitsValue amount) :
    Runs (discipline.having place) (Generator.change place name operation pointer amount)
      fun _ => True := by
  refine runs_operandUnlessFinished ((runs_coercePointer name fits).bind fun pointer fits => ?_)
  refine (runs_straight (by rfl) (by simp [Operation.uses, fits])).bind fun value fitsValue => ?_
  refine (runs_arithmetic operation true fitsValue.value fitsToo).bind
    fun changed fitsChanged => ?_
  exact runs_straight rfl (by simp [Operation.uses, fits, fitsChanged])

/-- A shift runs. -/
theorem runs_shift (operation : BinaryOperation) {value bits : Value}
    (fits : discipline.FitsValue value) (fitsToo : discipline.FitsValue bits) :
    Runs (discipline.having place) (Generator.shift place operation value bits)
      fun _ => True := by
  refine runs_operandUnlessFinished
    ((runs_coerce fits none).bind fun value fits => ?_)
  have shifted : Runs (discipline.having place) (do
      let position ← Generator.position place
      let bits ← Generator.coerce place bits (some value.type)
      Build.emit position (.binary operation value bits)) discipline.Fits := by
    refine runs_position fun block => ?_
    refine ((runs_coerce fitsToo _).positioned block).bind fun bits fitsToo => ?_
    exact runs_straightAt rfl (by simp [Operation.uses, fits, fitsToo])
  dsimp only
  split
  · exact shifted
  · exact Runs.rejectThen

/-- A complement runs. -/
theorem runs_complement {value : Value} (fits : discipline.FitsValue value) :
    Runs (discipline.having place) (Generator.complement place value) fun _ => True := by
  refine runs_operandUnlessFinished (runs_position fun block => ?_)
  refine ((runs_coerce fits none).positioned block).bind fun value fits => ?_
  have mask : Runs (discipline.havingAt place block)
      (liftM (Operand.filled (-1) value.type) : Build Operand) discipline.Fits :=
    Runs.lift fun _ made _ cites => (Operand.not_cites_filled made cites).elim
  refine mask.bind fun mask fitsMask => ?_
  exact runs_straightAt rfl (by simp [Operation.uses, fits, fitsMask])

/-- An operation that is given by its mnemonic runs. -/
theorem runs_operate (mnemonic : Value) {left right : Value}
    (fits : discipline.FitsValue left) (fitsToo : discipline.FitsValue right) :
    Runs (discipline.having place) (Generator.operate place mnemonic left right)
      fun _ => True := by
  refine runs_operandUnlessFinished ?_
  refine (runs_texts fun Effect _ => Build.leads_nameOf mnemonic).bind fun name _ => ?_
  split
  · refine (runs_texts fun Effect _ => Build.leads_plain mnemonic).bind fun shown _ => ?_
    exact Runs.reject
  next operation _ =>
    refine (runs_coercePair fits fitsToo).bind fun operands fits => ?_
    obtain ⟨left, right⟩ := operands
    refine runs_straight (Generator.isTerminator_apply operation left right) ?_
    cases operation <;> simp [Mnemonic.apply, Operation.uses, fits.1, fits.2]

/-- A comparison with null runs. -/
theorem runs_compareNull (name : String) (predicate : IntPredicate) {value : Value}
    (fits : discipline.FitsValue value) :
    Runs (discipline.having place) (Generator.compareNull place name predicate value)
      fun _ => True := by
  refine runs_operandUnlessFinished ?_
  split
  next known =>
    refine runs_position fun block => ?_
    have zero : Runs (discipline.havingAt place block)
        (liftM (Operand.zero known.type) : Build Operand) discipline.Fits :=
      Runs.lift fun _ made _ cites => (Operand.not_cites_zero made cites).elim
    refine zero.bind fun zero fitsZero => ?_
    exact runs_straightAt rfl (by simp [Operation.uses, fits.operand, fitsZero])
  next => exact Runs.reject

/-! ## Conversions -/

/-- A conversion at a block runs. -/
theorem runs_convertAt (operation : CastOperation) {value : Operand}
    (fits : discipline.Fits value) (target : IRType) :
    Runs (discipline.havingAt place block) (Generator.convertAt block operation value target)
      discipline.Fits := by
  unfold Generator.convertAt
  split
  · exact Runs.pure fits
  · exact runs_straightAt rfl (by simp [Operation.uses, fits])

/-- A conversion runs. -/
theorem runs_convert (operation : CastOperation) {value : Operand}
    (fits : discipline.Fits value) (target : IRType) :
    Runs (discipline.having place) (Generator.convert place operation value target)
      discipline.Fits :=
  runs_position fun _ => runs_convertAt operation fits target

/-- A reading of bits as another type runs. -/
theorem runs_bitcast {value : Value} (fits : discipline.FitsValue value) (type : Value) :
    Runs (discipline.having place) (Generator.bitcast place value type) fun _ => True := by
  refine runs_operandUnlessFinished (runs_position fun block => ?_)
  refine ((runs_coerce fits none).positioned block).bind fun value fits => ?_
  refine Runs.check.bind fun target _ => ?_
  exact runs_convertAt _ fits target

/-- A conversion of a number of either kind runs. -/
theorem runs_resize (name : String) (onInts onFloats : CastOperation) {value : Value}
    (fits : discipline.FitsValue value) (type : Value) :
    Runs (discipline.having place) (Generator.resize place name onInts onFloats value type)
      fun _ => True := by
  refine runs_operandUnlessFinished
    ((runs_coerce fits none).bind fun value fits => ?_)
  refine Runs.check.bind fun target _ => ?_
  split
  · exact runs_convert onInts fits target
  · split
    · exact runs_convert onFloats fits target
    · exact Runs.reject

/-- A conversion of a value that is checked first runs. -/
theorem runs_convertIf {value : Value} (fits : discipline.FitsValue value)
    (allowed : Operand → Bool) (complaint : Operand → Cause) (type : Value) (name : String)
    (operation : CastOperation) :
    Runs (discipline.having place) (Generator.operandUnlessFinished place do
      let value ← Generator.coerce place value none
      unless allowed value do Build.reject (complaint value)
      let target ← type.asType name
      Generator.convert place operation value target) fun _ => True := by
  refine runs_operandUnlessFinished
    ((runs_coerce fits none).bind fun value fits => ?_)
  have converted : Runs (discipline.having place) (do
      let target ← type.asType name
      Generator.convert place operation value target) discipline.Fits := by
    refine Runs.check.bind fun target _ => ?_
    exact runs_convert operation fits target
  dsimp only
  split
  · exact converted
  · exact Runs.rejectThen

/-- A conversion to an integer runs. -/
theorem runs_toInteger {value : Value} (fits : discipline.FitsValue value) (type : Value)
    (signed : Bool) :
    Runs (discipline.having place) (Generator.toInteger place value type signed)
      fun _ => True :=
  runs_convertIf fits (fun value => value.type.isFloat)
    (fun value => .notFloat "ftoi" value.type.text) type "ftoi" _

/-- A conversion to a floating-point number runs. -/
theorem runs_toFloat {value : Value} (fits : discipline.FitsValue value) (type : Value)
    (signed : Bool) :
    Runs (discipline.having place) (Generator.toFloat place value type signed) fun _ => True :=
  runs_convertIf fits (fun value => value.type.isInt)
    (fun value => .notInteger "itof" value.type.text) type "itof" _

/-- An operand is resized within its kind. -/
theorem runs_castOperand {value : Operand} (fits : discipline.Fits value) (target : IRType) :
    Runs (discipline.having place) (Generator.castOperand place value target)
      discipline.Fits := by
  unfold Generator.castOperand
  split
  · exact Runs.pure fits
  · split
    · exact runs_convert _ fits target
    · exact Runs.reject

/-- A value is resized within its kind. -/
theorem runs_cast {value : Value} (fits : discipline.FitsValue value) (type : Value) :
    Runs (discipline.having place) (Generator.cast place value type) fun _ => True := by
  refine runs_operandUnlessFinished
    ((runs_coerce fits none).bind fun value fits => ?_)
  refine Runs.check.bind fun target _ => ?_
  exact runs_castOperand fits target

/-! ## Memory -/

/-- The routine that was asked for is in the library in which it was. -/
theorem ensureRoutine_owner {library : LibraryId} {name : Name} {declared : Routine}
    {world after : World} {symbol : SymbolRef}
    (run : Build.ensureRoutine library name declared world = .ok symbol after) :
    symbol.owner = library := by
  rcases Build.ensureRoutine_ok run with ⟨-, owner, -⟩ | ⟨rfl, -⟩
  · exact owner
  · rfl

/-- The routine that a function is called by is in the library that calls it. -/
theorem callee_owner {library : LibraryId} {function : FunctionRef} {world after : World}
    {symbol : SymbolRef} (run : Function.callee library function world = .ok symbol after) :
    symbol.owner = library := by
  obtain ⟨_, _, looked, run⟩ := bind_eq_ok.mp run
  obtain ⟨rfl, rfl⟩ := get_eq_ok.mp looked
  dsimp only at run
  split at run
  next own =>
    obtain ⟨rfl, -⟩ := pure_eq_ok.mp run
    exact own
  next =>
    obtain ⟨name, _, _, ensured⟩ := bind_eq_ok.mp run
    exact ensureRoutine_owner ensured

/-- A stack slot runs. -/
theorem runs_allocate (type : Value) {size : Value} (fits : discipline.FitsValue size) :
    Runs (discipline.having place) (Generator.allocate place type size) fun _ => True := by
  refine runs_operandUnlessFinished ?_
  refine Runs.check.bind fun target _ => ?_
  refine runs_position fun block => ?_
  split
  · exact runs_straightAt rfl nofun
  · refine ((runs_coerce fits none).positioned block).bind fun size fits => ?_
    exact runs_straightAt rfl (by simp [Operation.uses, fits])

/-- A function of the heap may be used. -/
theorem runs_heapFunction {situation : discipline.Situation} {reference : FunctionRef}
    (serves : discipline.Serves reference) (name : String) (parameter result : IRType) :
    Runs situation (Generator.heapFunction reference.owner name parameter result)
      discipline.Fits := by
  intro stop world valid _
  have := discipline.symbols serves
  have leads : Leads (Along discipline.Course)
      (Generator.heapFunction reference.owner name parameter result) :=
    Generator.leads_heapFunction reference.owner name parameter result
  refine .of_step (leads world valid) fun operand final run => ?_
  obtain ⟨_, _, looked, run⟩ := bind_eq_ok.mp run
  obtain ⟨rfl, rfl⟩ := get_eq_ok.mp looked
  cases found : (world.library reference.owner).module.globalNamed? (Name.ofText name).key with
  | some known =>
      rw [found] at run
      obtain ⟨_, _, looked, run⟩ := bind_eq_ok.mp run
      obtain ⟨rfl, -⟩ := pure_eq_ok.mp run
      exact fits_of_isAtom rfl
  | none =>
      rw [found] at run
      obtain ⟨symbol, _, ensured, run⟩ := bind_eq_ok.mp run
      obtain ⟨_, _, looked, run⟩ := bind_eq_ok.mp run
      obtain ⟨rfl, -⟩ := pure_eq_ok.mp run
      intro cited cites
      rw [World.routineOperand, Operand.cites_routine] at cites
      subst cites
      exact discipline.cite serves (ensureRoutine_owner ensured)

/-- The number of bytes of a number of values may be used. -/
theorem runs_bytesOfMany (type : IRType) {size : Value} (fits : discipline.FitsValue size) :
    Runs (discipline.having place) (Generator.bytesOfMany place type size) discipline.Fits := by
  have bytes : Runs (discipline.having place) (liftM (Generator.bytesOf type) : Build Operand)
      discipline.Fits := by
    refine Runs.lift fun bytes made => ?_
    unfold Generator.bytesOf at made
    split at made <;> cases made
    exact fits_of_isAtom rfl
  refine bytes.bind fun bytes fitsBytes => ?_
  split
  · exact Runs.pure fitsBytes
  · refine (runs_castOperand fits.operand _).bind fun count fitsCount => ?_
    exact runs_straight rfl (by simp [Operation.uses, fitsBytes, fitsCount])
  · refine (runs_coerce fits _).bind fun count fitsCount => ?_
    exact runs_straight rfl (by simp [Operation.uses, fitsBytes, fitsCount])

/-- An allocation on the heap runs. -/
theorem runs_allocateOnHeap (type : Value) {size : Value} (fits : discipline.FitsValue size) :
    Runs (discipline.having place) (Generator.allocateOnHeap place type size) fun _ => True := by
  refine runs_operandUnlessFinished ?_
  refine Runs.check.bind fun target _ => ?_
  refine (runs_bytesOfMany target fits).bind fun bytes fitsBytes => ?_
  refine runs_position fun block => ?_
  refine (runs_library.positioned block).bind fun library served => ?_
  obtain ⟨reference, serves, rfl⟩ := served
  refine (runs_heapFunction serves _ _ _).bind fun allocator fitsAllocator => ?_
  refine (runs_straightAt (by rfl) (by simp [Operation.uses, fitsBytes, fitsAllocator])).bind
    fun raw fitsRaw => ?_
  exact runs_convertAt .bitcast fitsRaw _

/-- Giving memory back runs. -/
theorem runs_release {pointer : Value} (fits : discipline.FitsValue pointer) :
    Runs (discipline.having place) (Generator.release place pointer) fun _ => True := by
  refine runs_operandUnlessFinished
    ((runs_coercePointer "free" fits).bind fun pointer fits => ?_)
  refine (runs_convert .bitcast fits _).bind fun pointer fits => ?_
  refine runs_position fun block => ?_
  refine (runs_library.positioned block).bind fun library served => ?_
  obtain ⟨reference, serves, rfl⟩ := served
  refine (runs_heapFunction serves _ _ _).bind fun releaser fitsReleaser => ?_
  exact runs_straightAt rfl (by simp [Operation.uses, fits, fitsReleaser])

/-- The value at an address may be used. -/
theorem runs_loadOperand {pointer : Value} (fits : discipline.FitsValue pointer) :
    Runs (discipline.having place) (Generator.loadOperand place pointer) discipline.Fits := by
  refine runs_position fun block => ?_
  refine ((runs_coercePointer "load" fits).positioned block).bind fun pointer fits => ?_
  exact runs_straightAt rfl (by simp [Operation.uses, fits])

/-- A load runs. -/
theorem runs_load {pointer : Value} (fits : discipline.FitsValue pointer) :
    Runs (discipline.having place) (Generator.load place pointer) fun _ => True :=
  runs_operandUnlessFinished (runs_loadOperand fits)

/-- Putting a value at an address runs. -/
theorem runs_storeOperand {value pointer : Value} (fits : discipline.FitsValue value)
    (fitsToo : discipline.FitsValue pointer) :
    Runs (discipline.having place) (Generator.storeOperand place value pointer)
      discipline.Fits := by
  refine (runs_coercePointer "store" fitsToo).bind fun pointer fitsToo => ?_
  refine runs_position fun block => ?_
  split
  · refine ((runs_coerce fits _).positioned block).bind fun value fits => ?_
    exact runs_straightAt rfl (by simp [Operation.uses, fits, fitsToo])
  · exact Runs.throw

/-- A store runs. -/
theorem runs_store {value pointer : Value} (fits : discipline.FitsValue value)
    (fitsToo : discipline.FitsValue pointer) :
    Runs (discipline.having place) (Generator.store place value pointer) fun _ => True :=
  runs_operandUnlessFinished (runs_storeOperand fits fitsToo)

/-- The values among some values that may be used, the rows among them taken apart, may be used. -/
theorem fitsValue_flatten {world : World} {values : List Value}
    (fits : ∀ value ∈ values, discipline.FitsValue value) :
    ∀ value ∈ world.flatten values, discipline.FitsValue value := by
  intro value member
  obtain ⟨source, among, member⟩ := List.mem_flatMap.mp member
  rcases row : world.row? source with _ | items
  · rw [row, Option.getD_none, List.mem_singleton] at member
    exact member ▸ fits source among
  · rw [row, Option.getD_some] at member
    exact (fits source among).items row value member

/-- An address computation may be used. -/
theorem runs_elementAddress {pointer : Value} {indices : List Value}
    (fits : discipline.FitsValue pointer)
    (fitsToo : ∀ index ∈ indices, discipline.FitsValue index) :
    Runs (discipline.having place) (Generator.elementAddress place pointer indices)
      discipline.Fits := by
  refine (runs_coercePointer "gep" fits).bind fun pointer fits => ?_
  refine runs_position fun block => Runs.get fun world _ _ => ?_
  refine ((runs_coerceIndices (fitsValue_flatten fitsToo)).positioned block).bind
    fun indices fitsIndices => ?_
  exact runs_straightAt rfl (List.forall_mem_cons.mpr ⟨fits, fitsIndices⟩)

/-- An address computation runs. -/
theorem runs_address {pointer : Value} {indices : List Value}
    (fits : discipline.FitsValue pointer)
    (fitsToo : ∀ index ∈ indices, discipline.FitsValue index) :
    Runs (discipline.having place) (Generator.address place pointer indices) fun _ => True :=
  runs_operandUnlessFinished (runs_elementAddress fits fitsToo)

/-- A load of a part runs. -/
theorem runs_loadElement {pointer : Value} {indices : List Value}
    (fits : discipline.FitsValue pointer)
    (fitsToo : ∀ index ∈ indices, discipline.FitsValue index) :
    Runs (discipline.having place) (Generator.loadElement place pointer indices)
      fun _ => True := by
  refine runs_operandUnlessFinished
    ((runs_elementAddress fits fitsToo).bind fun element fits => ?_)
  exact runs_loadOperand fits.value

/-- A store of a part runs. -/
theorem runs_storeElement {pointer : Value} {values : List Value}
    (fits : discipline.FitsValue pointer)
    (fitsToo : ∀ value ∈ values, discipline.FitsValue value) :
    Runs (discipline.having place) (Generator.storeElement place pointer values)
      fun _ => True := by
  refine runs_operandUnlessFinished ?_
  split
  · exact Runs.throw
  next value last =>
    refine (runs_elementAddress fits fun index member =>
      fitsToo index (List.mem_of_mem_dropLast member)).bind fun element fitsElement => ?_
    exact runs_storeOperand (fitsToo value (List.mem_of_getLast? last)) fitsElement.value

/-! ## Aggregates -/

/-- A collection with another element runs. -/
theorem runs_insert {collection element index : Value} (fits : discipline.FitsValue collection)
    (fitsElement : discipline.FitsValue element) (fitsIndex : discipline.FitsValue index) :
    Runs (discipline.having place) (Generator.insert place collection element index)
      fun _ => True := by
  refine runs_operandUnlessFinished
    ((runs_coerce fits none).bind fun aggregate fits => ?_)
  have known : Runs (discipline.having place) (Generator.knownIndex index) fun _ => True :=
    runs_texts fun Effect _ => Generator.leads_knownIndex index
  split
  · refine runs_position fun block => ?_
    refine ((runs_coerce fitsElement _).positioned block).bind fun element fitsElement => ?_
    refine ((runs_coerce fitsIndex _).positioned block).bind fun index fitsIndex => ?_
    exact runs_straightAt rfl (by simp [Operation.uses, fits, fitsElement, fitsIndex])
  · refine runs_position fun block => ?_
    refine ((runs_coerce fitsElement _).positioned block).bind fun element fitsElement => ?_
    refine (known.positioned block).bind fun index _ => ?_
    exact runs_straightAt rfl (by simp [Operation.uses, fits, fitsElement])
  · refine known.bind fun index _ => ?_
    refine runs_position fun block => ?_
    refine Runs.check.bind fun field _ => ?_
    refine ((runs_coerce fitsElement _).positioned block).bind fun element fitsElement => ?_
    exact runs_straightAt rfl (by simp [Operation.uses, fits, fitsElement])
  · exact Runs.reject

/-- An element of a collection runs. -/
theorem runs_extract {collection index : Value} (fits : discipline.FitsValue collection)
    (fitsIndex : discipline.FitsValue index) :
    Runs (discipline.having place) (Generator.extract place collection index)
      fun _ => True := by
  refine runs_operandUnlessFinished
    ((runs_coerce fits none).bind fun aggregate fits => ?_)
  have known : Runs (discipline.having place) (Generator.knownIndex index) fun _ => True :=
    runs_texts fun Effect _ => Generator.leads_knownIndex index
  have taken : Runs (discipline.having place) (do
      let position ← Generator.position place
      Build.emit position (.extractValue aggregate (← Generator.knownIndex index)))
      discipline.Fits := by
    refine runs_position fun block => ?_
    refine (known.positioned block).bind fun index _ => ?_
    exact runs_straightAt rfl (by simp [Operation.uses, fits])
  split
  · refine runs_position fun block => ?_
    refine ((runs_coerce fitsIndex _).positioned block).bind fun index fitsIndex => ?_
    exact runs_straightAt rfl (by simp [Operation.uses, fits, fitsIndex])
  · exact taken
  · exact taken
  · exact Runs.reject

/-! ## Calls -/

/-- The routine that a call of a function leads to may be cited, whatever library the function is
of: it is in the library of the generator. -/
theorem runs_callee {situation : discipline.Situation} {reference : FunctionRef}
    (serves : discipline.Serves reference) (function : FunctionRef) :
    Runs situation (Function.callee reference.owner function)
      fun symbol => discipline.Citable symbol := by
  intro stop world valid _
  have := discipline.symbols serves
  have leads : Leads (Along discipline.Course) (Function.callee reference.owner function) :=
    Function.leads_callee reference.owner function
  exact .of_step (leads world valid) fun symbol final run =>
    discipline.cite serves (callee_owner run)

/-- A call of a function runs, with arguments that may be used. -/
theorem runs_callFunction (function : FunctionRef) {arguments : List Value}
    (fits : ∀ argument ∈ arguments, discipline.FitsValue argument) :
    Runs (discipline.having place) (Generator.callFunction place function arguments)
      discipline.Fits := by
  unfold Generator.callFunction
  refine Runs.get fun world _ _ => ?_
  dsimp only
  have called : Runs (discipline.having place) (do
      let arguments ← Generator.coerceArguments place (world.routineOf function).parameterTypes
        arguments
      let position ← Generator.position place
      let callee ← Function.callee (← Generator.library place) function
      Build.emit position (.call ((← get).routineOperand callee) arguments))
      discipline.Fits := by
    refine (runs_coerceArguments _ fits).bind fun arguments fits => ?_
    refine runs_position fun block => ?_
    refine (runs_library.positioned block).bind fun library served => ?_
    obtain ⟨reference, serves, rfl⟩ := served
    refine (runs_callee serves function).bind fun callee citable => Runs.get fun seen _ _ => ?_
    refine runs_straightAt rfl (List.forall_mem_cons.mpr ⟨fun symbol cites => ?_, fits⟩)
    rw [World.routineOperand, Operand.cites_routine] at cites
    exact cites ▸ citable
  split
  · refine Runs.get fun seen _ _ => ?_
    refine (runs_texts fun Effect _ => Build.leads_plain _).bind fun name _ => ?_
    exact Runs.rejectThen
  · exact called

/-- A call of an operand runs. -/
theorem runs_callOperand {callee : Operand} {arguments : List Value}
    (fits : discipline.Fits callee)
    (fitsToo : ∀ argument ∈ arguments, discipline.FitsValue argument) :
    Runs (discipline.having place) (do
      let position ← Generator.position place
      let arguments ← Generator.coerceEach place arguments
      return .operand (← Build.emit position (.call callee arguments)) : Build Value)
      fun _ => True := by
  refine runs_position fun block => ?_
  refine ((runs_coerceEach fitsToo).positioned block).bind fun arguments fitsToo => ?_
  have uses : ∀ operand ∈ (Operation.call callee arguments).uses, discipline.Fits operand :=
    List.forall_mem_cons.mpr ⟨fits, fitsToo⟩
  exact (runs_straightAt rfl uses).bind fun _ _ => Runs.pure trivial

/-! ## Slots -/

/-- Slots for values that may be used may be used. -/
theorem runs_createSlots {values : List Value}
    (fits : ∀ value ∈ values, discipline.FitsValue value) :
    Runs (discipline.having place) (Generator.createSlots place values)
      fun slots => ∀ slot ∈ slots, discipline.Fits slot := by
  induction values with
  | nil => exact Runs.pure nofun
  | cons value values ih =>
      obtain ⟨first, rest⟩ := List.forall_mem_cons.mp fits
      refine (runs_coerce first none).bind fun value fitsFirst => ?_
      refine (runs_straight (by rfl) (by simp [Operation.uses])).bind fun slot fitsSlot => ?_
      refine (runs_straight (by rfl) (by simp [Operation.uses, fitsFirst, fitsSlot])).bind
        fun _ _ => ?_
      refine (ih rest).bind fun slots fitsRest => ?_
      exact Runs.pure (List.forall_mem_cons.mpr ⟨fitsSlot, fitsRest⟩)

/-- Slots that may be used are loaded. -/
theorem runs_loadSlots {slots : List Operand} (fits : ∀ slot ∈ slots, discipline.Fits slot) :
    Runs (discipline.having place) (Generator.loadSlots place slots) fun _ => True := by
  induction slots with
  | nil => exact Runs.pure trivial
  | cons slot slots ih =>
      obtain ⟨first, rest⟩ := List.forall_mem_cons.mp fits
      refine (runs_load first.value).bind fun _ _ => ?_
      exact (ih rest).bind fun _ _ => Runs.pure trivial

/-- A value that may be used is put into the slot of the function. -/
theorem runs_storeResult {value : Value} (fits : discipline.FitsValue value) :
    Runs (discipline.having place) (Generator.storeResult place value) fun _ => True := by
  unfold Generator.storeResult
  split
  · exact Runs.pure trivial
  · have looked : Runs (discipline.having place) (Generator.isVoid place) fun _ => True :=
      Runs.get fun _ _ _ => Runs.pure trivial
    refine looked.bind fun isVoid _ => ?_
    split
    · exact Runs.pure trivial
    · refine Runs.get fun world valid has => ?_
      have serves := has.serves valid
      refine runs_position fun block => ?_
      refine ((runs_coerce fits _).positioned block).bind fun value fits => ?_
      refine Runs.get fun seen validThen _ => ?_
      rcases known : (seen.function (world.generator place).function).slot with _ | slot
      · exact Runs.throwThen
      · have fitsSlot : discipline.Fits slot :=
          fun symbol cites => discipline.slot validThen serves known cites
        refine (runs_straightAt (by rfl) (by simp [Operation.uses, fits, fitsSlot])).bind
          fun _ _ => ?_
        exact Runs.pure trivial

end Discipline

end StructuredIR
