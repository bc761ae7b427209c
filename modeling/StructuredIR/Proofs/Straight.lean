import StructuredIR.Proofs.Emission
import StructuredIR.Script.Operations

/-! # Straight-line operations

Most operations of a generator add instructions at the end of the block that it is positioned at,
none of which ends the block, and change no other code.

* **`AllowsAt place`** says that an effect permits this of the generator at `place`.
* **`Script.leads_onNumbers?`**, **`Script.leads_onTypes?`** and **`Script.leads_onMemory?`** say that
  all operations on numbers, types and memory lead only where such an effect permits, whether or not
  they fail; **`Generator.leads_callFunction`** says it of calls.
* **`Emits place`** is what it comes to between two worlds: all that differs is that instructions were
  added. **`Idles place`** says that no code has changed if the generator is finished. -/

namespace StructuredIR

open Build (Leads bind_eq_ok get_eq_ok pure_eq_ok)

/-! ## What happens where a generator is -/

/-- **An effect that permits straight-line operations** of a generator: instructions that end no block
may be added where it is. -/
class AllowsAt (place : GeneratorId) (Effect : World → World → Prop) : Prop
    extends AllowsSymbolsAt place Effect where
  /-- An instruction that ends no block may be added. -/
  emit (world : World) (block : BlockRef) (operation : Operation) :
    (world.generator place).block = .operand (.block block) → operation.isTerminator = false →
      Effect world ((Build.emit block operation).after world)

section

variable {Effect : World → World → Prop} {place : GeneratorId} {generator : Generator}
  {Result Next : Type}

/-- Adding an instruction leaves the generators as they are. -/
theorem Build.generators_emit (block : BlockRef) (operation : Operation) (world : World) :
    ((emit block operation).after world).generators = world.generators := by
  cases run : Build.emit block operation world with
  | error fault final =>
      rw [Build.after_of_error run]
      exact (Build.emit_error run).generators
  | ok value final =>
      obtain ⟨made, -, -, -, -, changes⟩ := Build.emit_ok run
      rw [Build.after_of_ok run]
      exact changes.generators

instance [AllowsAt place Effect] : AllowsAt place (While place generator Effect) where
  emit world block operation here straight :=
    .of_generators (AllowsAt.emit world block operation here straight) (Build.generators_emit ..)

/-- A generator knows the block that it is positioned at, as long as it is what it is. -/
theorem Generator.leads_positioned [IsEffect Effect] {next : BlockRef → Build Next}
    (leads : ∀ generator block, generator.block = .operand (.block block) →
      Leads (While place generator Effect) (next block)) :
    Leads Effect (position place >>= next) := by
  intro world
  rcases known : (world.generator place).block.block? with _ | block
  · have same : (position place >>= next).after world = world := by
      simp only [Build.after, position, bind, EStateM.bind, get, getThe, MonadStateOf.get,
        EStateM.get, known, Build.present]
      rfl
    rw [same]
    exact IsEffect.refl world
  · have same : (position place >>= next).after world = (next block).after world := by
      simp only [Build.after, position, bind, EStateM.bind, get, getThe, MonadStateOf.get,
        EStateM.get, known, Build.present]
      rfl
    rw [same]
    exact (leads _ block (Value.eq_of_block?_eq_some known) world rfl).1

variable [AllowsAt place Effect]

/-- An instruction that ends no block is added where the generator is. -/
@[grind .]
theorem Generator.while_emitStraight {block : BlockRef} {operation : Operation}
    (here : generator.block = .operand (.block block))
    (straight : operation.isTerminator = false) :
    Leads (While place generator Effect) (Build.emit block operation) := by
  rintro world rfl
  exact While.of_generators (AllowsAt.emit world block operation here straight)
    (Build.generators_emit ..) rfl

/-- An instruction that ends no block is added where the generator is. -/
@[grind .]
theorem Generator.leads_emitStraight {operation : Operation} (straight : operation.isTerminator = false) :
    Leads Effect (emit place operation) :=
  leads_positioned fun _ _ here => while_emitStraight here straight

end

/-! ## Operations on numbers -/

namespace Generator

local grind_pattern leads_positioned => Leads Effect (position place >>= next)
local grind_pattern while_library => Leads (While place generator Effect) (library place >>= next)

section

variable {Effect : World → World → Prop} [IsEffect Effect] {place : GeneratorId}

/-- What is done unless a generator is finished leads where it does. -/
@[grind .]
theorem leads_unlessFinished {action : Build Value} (leads : Leads Effect action) :
    Leads Effect (unlessFinished place action) := by
  grind -linarith [unlessFinished]

@[grind .]
theorem leads_operandUnlessFinished {action : Build Operand} (leads : Leads Effect action) :
    Leads Effect (operandUnlessFinished place action) := by
  grind -linarith [operandUnlessFinished]

@[grind .]
theorem leads_actUnlessFinished {action : Build Unit} (leads : Leads Effect action) :
    Leads Effect (actUnlessFinished place action) := by
  grind -linarith [actUnlessFinished]

end


@[grind =]
theorem isTerminator_apply (mnemonic : Mnemonic) (left right : Operand) :
    (mnemonic.apply left right).isTerminator = false := by
  cases mnemonic <;> rfl

attribute [local grind] Operation.isTerminator

variable {Effect : World → World → Prop} (place : GeneratorId) [AllowsAt place Effect]

/-! ### Numbers and bits -/

@[grind .]
theorem leads_arithmetic (operation : Arithmetic) (signed : Bool) (left right : Value) :
    Leads Effect (arithmetic place operation signed left right) := by
  grind -linarith [arithmetic]

@[grind .]
theorem leads_divide (operation : Arithmetic) (dividend divisor : Value) (signed : Bool) :
    Leads Effect (divide place operation dividend divisor signed) := by
  grind -linarith [divide]

@[grind .]
theorem leads_negation (value : Value) : Leads Effect (negation place value) := by
  grind -linarith [negation]

@[grind .]
theorem leads_change (name : String) (operation : Arithmetic) (pointer amount : Value) :
    Leads Effect (change place name operation pointer amount) := by
  grind -linarith [change]

@[grind .]
theorem leads_shift (operation : BinaryOperation) (value bits : Value) :
    Leads Effect (shift place operation value bits) := by
  grind -linarith [shift]

@[grind .]
theorem leads_complement (value : Value) : Leads Effect (complement place value) := by
  grind -linarith [complement]

@[grind .]
theorem leads_operate (mnemonic left right : Value) :
    Leads Effect (operate place mnemonic left right) := by
  grind -linarith [operate]

@[grind .]
theorem leads_compareNull (name : String) (predicate : IntPredicate) (value : Value) :
    Leads Effect (compareNull place name predicate value) := by
  unfold compareNull
  refine leads_operandUnlessFinished ?_
  split <;> grind -linarith

/-! ### Conversions -/

/-- A conversion at a known block is emitted there. -/
@[grind .]
theorem while_convertAt {generator : Generator} {block : BlockRef}
    (here : generator.block = .operand (.block block)) (operation : CastOperation)
    (value : Operand) (target : IRType) :
    Leads (While place generator Effect) (convertAt block operation value target) := by
  grind -linarith [convertAt]

@[grind .]
theorem leads_convert (operation : CastOperation) (value : Operand) (target : IRType) :
    Leads Effect (convert place operation value target) := by
  grind -linarith [convert]

@[grind .]
theorem leads_bitcast (value type : Value) : Leads Effect (bitcast place value type) := by
  grind -linarith [bitcast]

@[grind .]
theorem leads_resize (name : String) (onInts onFloats : CastOperation) (value type : Value) :
    Leads Effect (resize place name onInts onFloats value type) := by
  grind -linarith [resize]

@[grind .]
theorem leads_toInteger (value type : Value) (signed : Bool) :
    Leads Effect (toInteger place value type signed) := by
  grind -linarith [toInteger]

@[grind .]
theorem leads_toFloat (value type : Value) (signed : Bool) :
    Leads Effect (toFloat place value type signed) := by
  grind -linarith [toFloat]

@[grind .]
theorem leads_castOperand (value : Operand) (target : IRType) :
    Leads Effect (castOperand place value target) := by
  grind -linarith [castOperand]

@[grind .]
theorem leads_cast (value type : Value) : Leads Effect (cast place value type) := by
  grind -linarith [cast]

/-! ### Memory -/

@[grind .]
theorem leads_allocate (type size : Value) : Leads Effect (allocate place type size) := by
  grind -linarith [allocate]

@[grind .]
theorem leads_bytesOfMany (type : IRType) (size : Value) :
    Leads Effect (bytesOfMany place type size) := by
  grind -linarith [bytesOfMany]

@[grind .]
theorem leads_allocateOnHeap (type size : Value) :
    Leads Effect (allocateOnHeap place type size) := by
  refine leads_operandUnlessFinished ?_
  refine (Leads.lift _).bind fun target => ?_
  refine (leads_bytesOfMany place target size).bind fun bytes => ?_
  refine leads_positioned fun generator block here => ?_
  grind -linarith

@[grind .]
theorem leads_release (pointer : Value) : Leads Effect (release place pointer) := by
  refine leads_operandUnlessFinished ?_
  refine (leads_coercePointer place "free" pointer).bind fun pointer => ?_
  refine (leads_convert place .bitcast pointer heapPointer).bind fun pointer => ?_
  refine leads_positioned fun generator block here => ?_
  grind -linarith

@[grind .]
theorem leads_loadOperand (pointer : Value) :
    Leads Effect (loadOperand place pointer) := by
  grind -linarith [loadOperand]

@[grind .]
theorem leads_load (pointer : Value) : Leads Effect (load place pointer) := by
  grind -linarith [load]

@[grind .]
theorem leads_storeOperand (value pointer : Value) :
    Leads Effect (storeOperand place value pointer) := by
  grind -linarith [storeOperand]

@[grind .]
theorem leads_store (value pointer : Value) :
    Leads Effect (store place value pointer) := by
  grind -linarith [store]

@[grind .]
theorem leads_elementAddress (pointer : Value) (indices : List Value) :
    Leads Effect (elementAddress place pointer indices) := by
  grind -linarith [elementAddress]

@[grind .]
theorem leads_address (pointer : Value) (indices : List Value) :
    Leads Effect (address place pointer indices) := by
  grind -linarith [address]

@[grind .]
theorem leads_loadElement (pointer : Value) (indices : List Value) :
    Leads Effect (loadElement place pointer indices) := by
  grind -linarith [loadElement]

@[grind .]
theorem leads_storeElement (pointer : Value) (indicesAndValue : List Value) :
    Leads Effect (storeElement place pointer indicesAndValue) := by
  grind -linarith [storeElement]

/-! ### Aggregates -/

@[grind .]
theorem leads_insert (collection element index : Value) :
    Leads Effect (insert place collection element index) := by
  refine leads_operandUnlessFinished ?_
  refine (leads_coerce place collection none).bind fun aggregate => ?_
  split
  · refine leads_positioned fun generator block here => ?_
    grind -linarith
  · refine leads_positioned fun generator block here => ?_
    grind -linarith
  · refine (leads_knownIndex index).bind fun index => ?_
    refine leads_positioned fun generator block here => ?_
    grind -linarith
  · grind -linarith

@[grind .]
theorem leads_extract (collection index : Value) :
    Leads Effect (extract place collection index) := by
  refine leads_operandUnlessFinished ?_
  refine (leads_coerce place collection none).bind fun aggregate => ?_
  split
  · refine leads_positioned fun generator block here => ?_
    grind -linarith
  · refine leads_positioned fun generator block here => ?_
    grind -linarith
  · refine leads_positioned fun generator block here => ?_
    grind -linarith
  · grind -linarith

/-! ### Calls -/

/-- A call of a function is an instruction like any other; what it calls may have to be declared. -/
@[grind .]
theorem leads_callFunction (function : FunctionRef) (arguments : List Value) :
    Leads Effect (callFunction place function arguments) := by
  unfold callFunction
  refine Leads.get.bind fun world => ?_
  dsimp only
  have called : Leads Effect (do
      let arguments ← coerceArguments place (world.routineOf function).parameterTypes arguments
      let position ← position place
      let callee ← Function.callee (← library place) function
      Build.emit position (.call ((← get).routineOperand callee) arguments)) := by
    refine (leads_coerceArguments place _ arguments).bind fun arguments => ?_
    refine leads_positioned fun generator block here => ?_
    grind -linarith
  split
  · refine Leads.get.bind fun world => (Build.leads_plain _).bind fun name => ?_
    exact (Leads.reject _).bind fun _ => called
  · exact called

/-- A call of an operand is emitted like any other instruction. -/
theorem leads_callOperand (callee : Operand) (arguments : List Value) :
    Leads Effect (do
      let position ← position place
      let arguments ← coerceEach place arguments
      return .operand (← Build.emit position (.call callee arguments)) : Build Value) := by
  refine leads_positioned fun generator block here => ?_
  grind -linarith

/-! ### Slots -/

/-- Slots are allocated and filled where the generator is. -/
@[grind .]
theorem leads_createSlots (values : List Value) : Leads Effect (createSlots place values) := by
  induction values with
  | nil => grind -linarith [createSlots]
  | cons value values ih => grind -linarith [createSlots]

/-- Slots are loaded where the generator is. -/
@[grind .]
theorem leads_loadSlots (slots : List Operand) : Leads Effect (loadSlots place slots) := by
  induction slots with
  | nil => grind -linarith [loadSlots]
  | cons slot slots ih => grind -linarith [loadSlots]

/-- The value to return is stored where the generator is. -/
@[grind .]
theorem leads_storeResult (value : Value) : Leads Effect (storeResult place value) := by
  unfold storeResult
  split
  · exact Leads.pure _
  · refine (leads_isVoid place).bind fun isVoid => ?_
    split
    · exact Leads.pure _
    · refine Leads.get.bind fun world => ?_
      dsimp only
      refine leads_positioned fun generator block here => ?_
      grind -linarith

end Generator

/-! ## Operations by name -/

namespace Script

variable {call : Call} {place : GeneratorId} {verb : String} {action : Build Value}

@[grind .]
theorem leads_flag {Effect : World → World → Prop} [IsEffect Effect] (call : Call)
    (position : Nat) (name : String) (fallback : Bool) :
    Leads Effect (call.flag position name fallback) := by
  unfold Call.flag
  split <;> grind -linarith

variable {Effect : World → World → Prop} [AllowsAt place Effect]

/-- **All operations on numbers** are straight-line ones. -/
theorem leads_onNumbers? (known : onNumbers? call place verb = some action) :
    Leads Effect action := by
  unfold onNumbers? at known
  split at known <;> cases known <;>
    grind -linarith [Generator.sum, Generator.difference, Generator.product]

/-- **All conversions** are straight-line operations. -/
theorem leads_onTypes? (known : onTypes? call place verb = some action) :
    Leads Effect action := by
  unfold onTypes? at known
  split at known <;> cases known
  · refine leads_of_while place fun generator => Generator.while_library ?_
    exact (Coercion.leads_coerceAs _ _ _).bind fun _ => Leads.pure _
  all_goals grind -linarith

/-- **All operations on memory and aggregates** are straight-line ones. -/
theorem leads_onMemory? (known : onMemory? call place verb = some action) :
    Leads Effect action := by
  unfold onMemory? at known
  split at known <;> cases known <;> grind -linarith

end Script

/-! ## Emission where a generator is -/

/-- A row of instructions none of which ends a block. -/
def IsStraight (row : List Instruction) : Prop :=
  ∀ instruction ∈ row, instruction.operation.isTerminator = false

/-- **All that differs** is that instructions were added where a generator is, none of which ends
the block. -/
structure Emits (place : GeneratorId) (before after : World) : Prop
    extends SameFrame before after where
  /-- Rows have become longer only where the generator is. -/
  row (block : BlockRef) :
    ∃ added, IsStraight added ∧ after.row block = before.row block ++ added ∧
      (added = [] ∨ (before.generator place).block = .operand (.block block))

theorem IsStraight.nil : IsStraight [] := nofun

theorem IsStraight.append {first second : List Instruction} (left : IsStraight first)
    (right : IsStraight second) : IsStraight (first ++ second) := by
  intro instruction member
  rcases List.mem_append.mp member with found | found
  · exact left instruction found
  · exact right instruction found

/-- Where no code differs, nothing was added. -/
theorem SameCode.emits {before after : World} (same : SameCode before after)
    (place : GeneratorId) : Emits place before after where
  toSameFrame := same.toSameFrame
  row block := ⟨[], IsStraight.nil, by rw [List.append_nil, same.row], .inl rfl⟩

instance (place : GeneratorId) : IsEffect (Emits place) where
  refl world := SameCode.emits (IsEffect.refl world) place
  trans first second :=
    { toSameFrame := IsEffect.trans first.toSameFrame second.toSameFrame
      row := fun block => by
        obtain ⟨added, straight, row, here⟩ := first.row block
        obtain ⟨further, straightOn, rowOn, hereOn⟩ := second.row block
        refine ⟨added ++ further, straight.append straightOn, ?_, ?_⟩
        · rw [rowOn, row, List.append_assoc]
        · rw [first.generator] at hereOn
          rcases here with rfl | here
          · simpa using hereOn
          · exact .inr here }

/-- What changes no code permits to be kept and declared, an effect that permits changes of no code
permits as well. -/
theorem AllowsSymbols.of_sameCode {Effect : World → World → Prop} [IsEffect Effect]
    (permitted : ∀ before after, SameCode before after → Effect before after) :
    AllowsSymbols Effect :=
  have : AllowsTexts Effect :=
    { held := fun world place text => permitted _ _ (AllowsTexts.held world place text)
      block := fun world place text => permitted _ _ (AllowsTexts.block world place text)
      global := fun world symbol text => permitted _ _ (AllowsTexts.global world symbol text) }
  { intern := fun place text world => permitted _ _ (AllowsSymbols.intern place text world)
    routine := fun place name result parameters isVariadic world =>
      permitted _ _ (AllowsSymbols.routine place name result parameters isVariadic world) }

instance (place : GeneratorId) : AllowsSymbols (Emits place) :=
  .of_sameCode fun _ _ same => same.emits place

instance (place : GeneratorId) : AllowsAt place (Emits place) where
  emit world block operation here straight := by
    cases run : Build.emit block operation world with
    | error fault final =>
        rw [Build.after_of_error run]
        exact (Build.emit_error run).emits place
    | ok value final =>
        obtain ⟨made, does, -, -, -, changes⟩ := Build.emit_ok run
        rw [Build.after_of_ok run]
        refine ⟨changes.toSameFrame, fun other => ?_⟩
        have row := changes.row other
        split at row
        next same =>
          refine ⟨[made], ?_, same.1 ▸ row, .inr (same.1 ▸ here)⟩
          intro instruction member
          rw [List.mem_singleton.mp member, does]
          exact straight
        next => exact ⟨[], IsStraight.nil, by rw [row, List.append_nil], .inl rfl⟩

section

variable {place : GeneratorId} {block : BlockRef}

/-- A generator that is positioned at a block knows that block. -/
theorem Generator.position_of_block {world : World}
    (here : (world.generator place).block = .operand (.block block)) :
    position place world = .ok block world := by
  simp only [position, bind, EStateM.bind, get, getThe, MonadStateOf.get, EStateM.get, here,
    Value.block?, Build.present]
  rfl

/-- A generator that is positioned at a block emits there. -/
theorem Generator.emit_of_block {world : World}
    (here : (world.generator place).block = .operand (.block block)) (operation : Operation) :
    Generator.emit place operation world = Build.emit block operation world := by
  simp only [Generator.emit, bind, EStateM.bind, position_of_block here]

/-- A generator that knows its block is positioned at it. -/
theorem Generator.position_ok {world after : World} (run : position place world = .ok block after) :
    (world.generator place).block = .operand (.block block) ∧ world = after := by
  obtain ⟨_, _, looked, run⟩ := bind_eq_ok.mp run
  obtain ⟨rfl, rfl⟩ := get_eq_ok.mp looked
  cases known : (world.generator place).block.block? with
  | none =>
      rw [known] at run
      cases run
  | some here =>
      rw [known] at run
      cases run
      exact ⟨Value.eq_of_block?_eq_some known, rfl⟩

/-- A value that a generator coerces is coerced with the strings of its library. -/
theorem Generator.coerce_ok {world after : World} {value : Value} {wanted : Option IRType}
    {operand : Operand}
    (run : coerce place value wanted world = .ok operand after) :
    Coercion.coerce (some (world.generator place).function.owner) value wanted world =
      .ok operand after := by
  obtain ⟨library, between, known, run⟩ := bind_eq_ok.mp run
  obtain ⟨_, _, looked, known⟩ := bind_eq_ok.mp known
  obtain ⟨rfl, rfl⟩ := get_eq_ok.mp looked
  obtain ⟨rfl, rfl⟩ := pure_eq_ok.mp known
  exact run

/-- A finished generator gives nothing and changes nothing. -/
theorem Generator.unlessFinished_of_isFinished {world : World} {action : Build Value}
    (finished : (world.generator place).isFinished = true) :
    unlessFinished place action world = .ok .none world := by
  simp only [unlessFinished, bind, EStateM.bind, get, getThe, MonadStateOf.get, EStateM.get,
    finished, if_true]
  rfl

/-- A generator that is not finished does what it is asked for. -/
theorem Generator.unlessFinished_of_not_isFinished {world : World} {action : Build Value}
    (unfinished : (world.generator place).isFinished = false) :
    unlessFinished place action world = action world := by
  simp only [unlessFinished, bind, EStateM.bind, get, getThe, MonadStateOf.get, EStateM.get,
    unfinished]
  rfl

/-- What succeeds unless a generator is finished succeeds if it is not. -/
theorem Generator.unlessFinished_ok {action : Build Value} {value : Value} {world final : World}
    (unfinished : (world.generator place).isFinished = false)
    (run : unlessFinished place action world = .ok value final) :
    action world = .ok value final := by
  rwa [unlessFinished_of_not_isFinished unfinished] at run

/-- What succeeds and gives nothing unless a generator is finished succeeds if it is not. -/
theorem Generator.actUnlessFinished_ok {action : Build Unit} {value : Value}
    {world final : World} (unfinished : (world.generator place).isFinished = false)
    (run : actUnlessFinished place action world = .ok value final) :
    action world = .ok () final ∧ value = .none := by
  obtain ⟨_, between, acted, run⟩ := bind_eq_ok.mp (unlessFinished_ok unfinished run)
  obtain ⟨rfl, rfl⟩ := pure_eq_ok.mp run
  exact ⟨acted, rfl⟩

end

/-! ## Finished generators -/

/-- No code has changed if the generator was finished. -/
def Idles (place : GeneratorId) (before after : World) : Prop :=
  (before.generator place).isFinished = true → SameCode before after

instance (place : GeneratorId) : IsEffect (Idles place) where
  refl world _ := IsEffect.refl world
  trans first second finished :=
    IsEffect.trans (first finished)
      (second (by rw [(first finished).toSameFrame.generator, finished]))

instance (place : GeneratorId) : AllowsSymbols (Idles place) :=
  .of_sameCode fun _ _ same _ => same

section

variable {place : GeneratorId}

/-- What is done unless a generator is finished changes nothing if it is. -/
@[grind .]
theorem Generator.idles_unlessFinished (action : Build Value) :
    Leads (Idles place) (unlessFinished place action) := by
  intro world finished
  rw [Build.after_of_ok (unlessFinished_of_isFinished finished)]
  exact IsEffect.refl world

@[grind .]
theorem Generator.idles_operandUnlessFinished (action : Build Operand) :
    Leads (Idles place) (operandUnlessFinished place action) :=
  idles_unlessFinished _

@[grind .]
theorem Generator.idles_divide (operation : Arithmetic) (dividend divisor : Value)
    (signed : Bool) : Leads (Idles place) (divide place operation dividend divisor signed) := by
  grind -linarith [divide]

end

namespace Script

variable {call : Call} {place : GeneratorId} {verb : String} {action : Build Value}

/-- Finished generators do nothing with numbers. -/
theorem idles_onNumbers? (known : onNumbers? call place verb = some action) :
    Leads (Idles place) action := by
  unfold onNumbers? at known
  split at known <;> cases known <;>
    first | exact Generator.idles_operandUnlessFinished _ | grind -linarith

/-- Finished generators convert nothing. -/
theorem idles_onTypes? (known : onTypes? call place verb = some action) :
    Leads (Idles place) action := by
  unfold onTypes? at known
  split at known <;> cases known
  · grind -linarith
  · exact Generator.idles_operandUnlessFinished _
  · exact Generator.idles_operandUnlessFinished _
  · exact Generator.idles_operandUnlessFinished _
  · exact Generator.idles_operandUnlessFinished _
  · exact (leads_flag call 2 "signed" true).bind fun _ => Generator.idles_operandUnlessFinished _
  · exact (leads_flag call 2 "signed" true).bind fun _ => Generator.idles_operandUnlessFinished _
  · exact Generator.idles_operandUnlessFinished _

/-- Finished generators do nothing with memory and aggregates. -/
theorem idles_onMemory? (known : onMemory? call place verb = some action) :
    Leads (Idles place) action := by
  unfold onMemory? at known
  split at known <;> cases known <;> exact Generator.idles_operandUnlessFinished _

end Script

end StructuredIR
