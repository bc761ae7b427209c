import StructuredIR.Proofs.Straight
import StructuredIR.Proofs.Symbols

/-! # Refused operations

Many operations of generators convert what they are given and then add one instruction, if any. An
instruction that does not pass its checks is not added, so nothing but the conversions is left of such an
operation if it fails.

* **`Build.emit_refused`**: adding an instruction that ends no block changes nothing if it fails.
* **`Generator.failsIn_arithmetic`** and its companions say of each of these operations that if it fails,
  it leads only where an effect permits that texts are pooled, `AllowsPoolAt`.
* **`Script.failsIn_onGenerator?`** says it of the operations by their names, `Script.addsLast`. -/

namespace StructuredIR

open Build (FailsIn Leads bind_eq_error lift_eq_ok)

/-- **Adding an instruction that ends no block changes nothing if it fails.** -/
theorem Build.emit_refused {block : BlockRef} {operation : Operation} {world final : World}
    {fault : Fault} (straight : operation.isTerminator = false)
    (run : emit block operation world = .error fault final) : final = world := by
  rcases bind_eq_error.mp run with refused | ⟨made, between, -, added⟩
  · rcases bind_eq_error.mp refused with unchecked | ⟨type, between, -, named⟩
    · cases checked : operation.check with
      | ok type =>
          rw [checked] at unchecked
          cases unchecked
      | error known =>
          rw [checked] at unchecked
          cases unchecked
          rfl
    · rcases bind_eq_error.mp named with failed | ⟨name, numbered, -, free⟩
      · cases failed
      · rw [straight] at free
        cases free
  · cases added

/-- What is rejected unless a condition holds fails where what follows does. -/
theorem Build.FailsIn.unless {Effect : World → World → Prop} [IsEffect Effect] {Result : Type}
    {next : Build Result} (fails : FailsIn Effect next) (condition : Bool) (cause : Cause) :
    FailsIn Effect (do
      unless condition do reject cause
      next) := by
  dsimp only
  split
  · exact fails
  · exact .bind (Leads.reject cause) fun _ => fails

theorem Build.failsIn_emitStraight {Effect : World → World → Prop} [IsEffect Effect]
    (block : BlockRef) {operation : Operation} (straight : operation.isTerminator = false) :
    FailsIn Effect (emit block operation) := by
  intro world fault final run
  rw [emit_refused straight run]
  exact IsEffect.refl world

/-! ## Symbols -/

section

variable {Effect : World → World → Prop} [IsEffect Effect]

/-- A symbol that cannot be declared changes nothing. -/
theorem Build.failsIn_declareSymbol (place : LibraryId) (name : Name) (content : Content) :
    FailsIn Effect (declareSymbol place name content) := by
  intro world fault final run
  rw [declareSymbol_error run]
  exact IsEffect.refl world

theorem Build.failsIn_ensureRoutine (place : LibraryId) (name : Name) (declared : Routine) :
    FailsIn Effect (ensureRoutine place name declared) := by
  refine .bind Leads.get fun world => ?_
  split
  · exact .of_leads (Leads.pure _)
  · exact failsIn_declareSymbol place name _

end

/-- A function that cannot be called changes nothing. -/
theorem Function.failsIn_callee {Effect : World → World → Prop} [AllowsNewTexts Effect]
    (place : LibraryId) (reference : FunctionRef) : FailsIn Effect (callee place reference) := by
  refine .bind Leads.get fun world => ?_
  dsimp only
  split
  · exact .of_leads (Leads.pure _)
  · exact .bind (Build.leads_nameOf _) fun name => Build.failsIn_ensureRoutine place name _

/-! ## Generators -/

namespace Generator

variable {Effect : World → World → Prop} {place : GeneratorId}

/-- What is done unless a generator is finished fails where it does. -/
theorem failsIn_unlessFinished [IsEffect Effect] {action : Build Value}
    (fails : FailsIn Effect action) : FailsIn Effect (unlessFinished place action) := by
  refine .bind Leads.get fun world => ?_
  split
  · exact .of_leads (Leads.pure _)
  · exact fails

theorem failsIn_operandUnlessFinished [IsEffect Effect] {action : Build Operand}
    (fails : FailsIn Effect action) : FailsIn Effect (operandUnlessFinished place action) :=
  failsIn_unlessFinished (fails.result Value.operand)

theorem failsIn_actUnlessFinished [IsEffect Effect] {action : Build Unit}
    (fails : FailsIn Effect action) : FailsIn Effect (actUnlessFinished place action) :=
  failsIn_unlessFinished (fails.result fun _ => Value.none)

/-- A conversion at a block is one instruction, unless the operand has the type already. -/
theorem failsIn_convertAt [IsEffect Effect] (block : BlockRef) (operation : CastOperation) (value : Operand)
    (target : IRType) : FailsIn Effect (convertAt block operation value target) := by
  unfold convertAt
  split
  · exact .of_leads (Leads.pure _)
  · exact Build.failsIn_emitStraight block rfl

section

variable [AllowsPoolAt place Effect]

/-- An instruction that ends no block is not added if it fails. -/
theorem failsIn_emit {operation : Operation} (straight : operation.isTerminator = false) :
    FailsIn Effect (emit place operation) :=
  .bind (leads_position place) fun here => Build.failsIn_emitStraight here straight

/-! ## Numbers and bits -/

theorem failsIn_arithmetic {operation : Arithmetic} {signed : Bool} {left right : Value} :
    FailsIn Effect (arithmetic place operation signed left right) := by
  refine .bind (leads_coercePair place left right) fun operands => ?_
  dsimp only
  split
  · exact failsIn_emit rfl
  · exact .of_leads (Leads.reject _)

theorem failsIn_divide {operation : Arithmetic} {dividend divisor : Value} {signed : Bool} :
    FailsIn Effect (divide place operation dividend divisor signed) := by
  have open' : FailsIn Effect
      (operandUnlessFinished place (arithmetic place operation signed dividend divisor)) :=
    failsIn_operandUnlessFinished failsIn_arithmetic
  unfold divide
  split
  · exact .bind (Leads.reject _) fun _ => open'
  · exact open'

theorem failsIn_negation (value : Value) : FailsIn Effect (negation place value) := by
  refine failsIn_operandUnlessFinished (.bind (leads_coerce place value none) fun operand => ?_)
  split
  · exact failsIn_emit rfl
  split
  · exact failsIn_emit rfl
  · exact .of_leads (Leads.reject _)

theorem failsIn_shift (operation : BinaryOperation) (value bits : Value) :
    FailsIn Effect (shift place operation value bits) := by
  refine failsIn_operandUnlessFinished (.bind (leads_coerce place value none) fun operand => ?_)
  refine FailsIn.unless ?_ _ _
  exact .bind (leads_position place) fun here => .bind (leads_coerce place bits _) fun _ =>
    Build.failsIn_emitStraight here rfl

theorem failsIn_complement (value : Value) : FailsIn Effect (complement place value) :=
  failsIn_operandUnlessFinished <| .bind (leads_position place) fun here =>
    .bind (leads_coerce place value none) fun _ => .bind (Leads.lift _) fun _ =>
      Build.failsIn_emitStraight here rfl

theorem failsIn_operate (mnemonic left right : Value) :
    FailsIn Effect (operate place mnemonic left right) := by
  refine failsIn_operandUnlessFinished (.bind (Build.leads_nameOf mnemonic) fun name => ?_)
  split
  · exact .of_leads ((Build.leads_plain mnemonic).bind fun _ => Leads.reject _)
  · exact .bind (leads_coercePair place left right) fun operands =>
      failsIn_emit (isTerminator_apply _ _ _)

theorem failsIn_compareNull (name : String) (predicate : IntPredicate) (value : Value) :
    FailsIn Effect (compareNull place name predicate value) := by
  refine failsIn_operandUnlessFinished ?_
  split
  · exact .bind (leads_position place) fun here => .bind (Leads.lift _) fun _ =>
      Build.failsIn_emitStraight here rfl
  · exact .of_leads (Leads.reject _)

/-! ## Conversions -/

theorem failsIn_convert (operation : CastOperation) (value : Operand) (target : IRType) :
    FailsIn Effect (convert place operation value target) :=
  .bind (leads_position place) fun here => failsIn_convertAt here operation value target

theorem failsIn_bitcast (value type : Value) : FailsIn Effect (bitcast place value type) :=
  failsIn_operandUnlessFinished <| .bind (leads_position place) fun here =>
    .bind (leads_coerce place value none) fun operand => .bind (Leads.lift _) fun target =>
      failsIn_convertAt here .bitcast operand target

theorem failsIn_resize (name : String) (onInts onFloats : CastOperation) (value type : Value) :
    FailsIn Effect (resize place name onInts onFloats value type) := by
  refine failsIn_operandUnlessFinished (.bind (leads_coerce place value none) fun operand => ?_)
  refine .bind (Leads.lift _) fun target => ?_
  split
  · exact failsIn_convert onInts operand target
  split
  · exact failsIn_convert onFloats operand target
  · exact .of_leads (Leads.reject _)

theorem failsIn_toInteger (value type : Value) (signed : Bool) :
    FailsIn Effect (toInteger place value type signed) := by
  refine failsIn_operandUnlessFinished (.bind (leads_coerce place value none) fun operand => ?_)
  refine FailsIn.unless ?_ _ _
  exact .bind (Leads.lift _) fun target => failsIn_convert _ operand target

theorem failsIn_toFloat (value type : Value) (signed : Bool) :
    FailsIn Effect (toFloat place value type signed) := by
  refine failsIn_operandUnlessFinished (.bind (leads_coerce place value none) fun operand => ?_)
  refine FailsIn.unless ?_ _ _
  exact .bind (Leads.lift _) fun target => failsIn_convert _ operand target

theorem failsIn_cast (value type : Value) : FailsIn Effect (cast place value type) := by
  refine failsIn_operandUnlessFinished (.bind (leads_coerce place value none) fun operand => ?_)
  refine .bind (Leads.lift _) fun target => ?_
  unfold castOperand
  split
  · exact .of_leads (Leads.pure _)
  split
  · exact failsIn_convert _ operand target
  · exact .of_leads (Leads.reject _)

/-! ## Memory -/

theorem failsIn_allocate (type size : Value) : FailsIn Effect (allocate place type size) := by
  refine failsIn_operandUnlessFinished (.bind (Leads.lift _) fun target => ?_)
  refine .bind (leads_position place) fun here => ?_
  split
  · exact Build.failsIn_emitStraight here rfl
  · exact .bind (leads_coerce place size none) fun _ => Build.failsIn_emitStraight here rfl

theorem failsIn_load (pointer : Value) : FailsIn Effect (load place pointer) :=
  failsIn_operandUnlessFinished <| .bind (leads_position place) fun here =>
    .bind (leads_coercePointer place "load" pointer) fun _ => Build.failsIn_emitStraight here rfl

theorem failsIn_store (value pointer : Value) : FailsIn Effect (store place value pointer) := by
  refine failsIn_operandUnlessFinished ?_
  refine .bind (leads_coercePointer place "store" pointer) fun address => ?_
  refine .bind (leads_position place) fun here => ?_
  split
  · exact .bind (leads_coerce place value _) fun _ => Build.failsIn_emitStraight here rfl
  · exact .of_leads (Leads.throw _)

theorem failsIn_address (pointer : Value) (indices : List Value) :
    FailsIn Effect (address place pointer indices) :=
  failsIn_operandUnlessFinished <| .bind (leads_coercePointer place "gep" pointer) fun _ =>
    .bind (leads_position place) fun here => .bind Leads.get fun _ =>
      .bind (leads_coerceIndices place _) fun _ => Build.failsIn_emitStraight here rfl

/-! ## Aggregates -/

theorem failsIn_insert (collection element index : Value) :
    FailsIn Effect (insert place collection element index) := by
  refine failsIn_operandUnlessFinished ?_
  refine .bind (leads_coerce place collection none) fun aggregate => ?_
  split
  · exact .bind (leads_position place) fun here => .bind (leads_coerce place element _) fun _ =>
      .bind (leads_coerce place index _) fun _ => Build.failsIn_emitStraight here rfl
  · exact .bind (leads_position place) fun here => .bind (leads_coerce place element _) fun _ =>
      .bind (leads_knownIndex index) fun _ => Build.failsIn_emitStraight here rfl
  · exact .bind (leads_knownIndex index) fun _ => .bind (leads_position place) fun here =>
      .bind (Leads.lift _) fun _ => .bind (leads_coerce place element _) fun _ =>
        Build.failsIn_emitStraight here rfl
  · exact .of_leads (Leads.reject _)

theorem failsIn_extract (collection index : Value) :
    FailsIn Effect (extract place collection index) := by
  refine failsIn_operandUnlessFinished ?_
  refine .bind (leads_coerce place collection none) fun aggregate => ?_
  split
  · exact .bind (leads_position place) fun here => .bind (leads_coerce place index _) fun _ =>
      Build.failsIn_emitStraight here rfl
  · exact .bind (leads_position place) fun here => .bind (leads_knownIndex index) fun _ =>
      Build.failsIn_emitStraight here rfl
  · exact .bind (leads_position place) fun here => .bind (leads_knownIndex index) fun _ =>
      Build.failsIn_emitStraight here rfl
  · exact .of_leads (Leads.reject _)

end

end Generator

/-! ## Operations by name -/

namespace Script

variable {Effect : World → World → Prop} {call : Call} {place : GeneratorId} {verb : String}
  {action : Build Value}

/-- The operations of generators that add one instruction, if any, as the last thing that they do. -/
def addsLast : List String := [
  "add", "sub", "mul", "div", "rem", "neg", "shl", "ashr", "lshr", "invert", "bitcast", "trunc",
  "sext", "zext", "ftoi", "itof", "cast", "alloca", "load", "store", "gep", "insert", "extract",
  "is_null", "is_not_null", "opr"]

section

variable [AllowsPoolAt place Effect]

/-- Operations on numbers that fail lead no further than their conversions. -/
theorem failsIn_onNumbers? (last : verb ∈ addsLast)
    (known : onNumbers? call place verb = some action) : FailsIn Effect action := by
  unfold onNumbers? at known
  split at known <;> cases known
  case h_1 | h_2 | h_3 => exact Generator.failsIn_operandUnlessFinished Generator.failsIn_arithmetic
  case h_4 | h_5 => exact .bind (leads_flag _ _ _ _) fun _ => Generator.failsIn_divide
  case h_6 => exact Generator.failsIn_negation _
  case h_7 | h_8 => exact absurd last (by decide)
  case h_9 | h_10 | h_11 => exact Generator.failsIn_shift _ _ _
  case h_12 => exact Generator.failsIn_complement _
  case h_13 | h_14 => exact Generator.failsIn_compareNull _ _ _
  case h_15 => exact Generator.failsIn_operate _ _ _

/-- So do conversions to a type. -/
theorem failsIn_onTypes? (last : verb ∈ addsLast)
    (known : onTypes? call place verb = some action) : FailsIn Effect action := by
  unfold onTypes? at known
  split at known <;> cases known
  case h_1 => exact absurd last (by decide)
  case h_2 => exact Generator.failsIn_bitcast _ _
  case h_3 | h_4 | h_5 => exact Generator.failsIn_resize _ _ _ _ _
  case h_6 => exact .bind (leads_flag _ _ _ _) fun _ => Generator.failsIn_toInteger _ _ _
  case h_7 => exact .bind (leads_flag _ _ _ _) fun _ => Generator.failsIn_toFloat _ _ _
  case h_8 => exact Generator.failsIn_cast _ _

/-- So do operations on memory and aggregates. -/
theorem failsIn_onMemory? (last : verb ∈ addsLast)
    (known : onMemory? call place verb = some action) : FailsIn Effect action := by
  unfold onMemory? at known
  split at known <;> cases known
  case h_1 => exact Generator.failsIn_allocate _ _
  case h_2 | h_3 | h_7 | h_8 => exact absurd last (by decide)
  case h_4 => exact Generator.failsIn_load _
  case h_5 => exact Generator.failsIn_store _ _
  case h_6 => exact Generator.failsIn_address _ _
  case h_9 => exact Generator.failsIn_insert _ _ _
  case h_10 => exact Generator.failsIn_extract _ _

end

/-- Operations on blocks, calls and returns do more than that. -/
theorem not_addsLast (known : (onBlocks? call place verb).isSome ∨ (onFunctions? call place verb).isSome) :
    verb ∉ addsLast := by
  intro last
  simp only [addsLast, List.mem_cons, List.not_mem_nil, or_false] at last
  rcases known with known | known
  · unfold onBlocks? at known
    split at known <;> simp at known last
  · unfold onFunctions? at known
    split at known <;> simp at known last

/-- **An operation that adds one instruction as the last thing that it does leads no further than its
conversions if it fails.** -/
theorem failsIn_onGenerator? [AllowsPoolAt place Effect] (last : verb ∈ addsLast)
    (known : onGenerator? call place verb = some action) : FailsIn Effect action := by
  simp only [onGenerator?, Option.orElse_eq_orElse, Option.orElse_eq_or, Option.or_eq_some_iff]
    at known
  rcases known with numbers | ⟨-, types | ⟨-, memory | ⟨-, blocks | ⟨-, functions⟩⟩⟩⟩
  · exact failsIn_onNumbers? last numbers
  · exact failsIn_onTypes? last types
  · exact failsIn_onMemory? last memory
  · exact absurd last (not_addsLast (.inl (by rw [blocks]; rfl)))
  · exact absurd last (not_addsLast (.inr (by rw [functions]; rfl)))

end Script

end StructuredIR
