import StructuredIR.Proofs.Coercions
import StructuredIR.Proofs.Rows

/-! # What emission changes

The code of a world is what its generators, functions and blocks are, names and kept texts aside.

* **`SameFrame`** says that nothing but instructions has changed, **`SameCode`** that not even
  those have: so much do texts, coercions and declarations.
* **`Emits place`** says that all that has happened is that instructions were added where a
  generator is, none of which ends a block.
* **`Build.emit_ok`** and its companions tell what the steps that add instructions and blocks do,
  with everything that they leave as it is. -/

namespace StructuredIR

open Build (Leads)

/-! ## Frames -/

/-- **Nothing but instructions differs** between two worlds, names and kept texts aside. Routines
without blocks may have come up. -/
structure SameFrame (before after : World) : Prop where
  /-- The generators are the same. -/
  generators : after.generators = before.generators
  /-- What is recorded of functions is the same. -/
  function? (reference : FunctionRef) : after.function? reference = before.function? reference
  /-- The blocks are the same. -/
  blockCount (symbol : SymbolRef) : after.blockCount symbol = before.blockCount symbol
  /-- The blocks are in the same order. -/
  order (symbol : SymbolRef) : after.order symbol = before.order symbol
  /-- Routines that are there still yield what they yielded. -/
  result (symbol : SymbolRef) (type : IRType) :
    (before.routine? symbol).map Routine.result = some type →
      (after.routine? symbol).map Routine.result = some type

/-- **Nothing differs** between two worlds, names and kept texts aside. -/
structure SameCode (before after : World) : Prop extends SameFrame before after where
  /-- The instructions are the same. -/
  row (place : BlockRef) : after.row place = before.row place

instance : IsEffect SameFrame where
  refl _ := ⟨rfl, fun _ => rfl, fun _ => rfl, fun _ => rfl, fun _ _ => id⟩
  trans first second :=
    { generators := second.generators.trans first.generators
      function? := fun reference => (second.function? reference).trans (first.function? reference)
      blockCount := fun symbol => (second.blockCount symbol).trans (first.blockCount symbol)
      order := fun symbol => (second.order symbol).trans (first.order symbol)
      result := fun symbol type known =>
        second.result symbol type (first.result symbol type known) }

instance : IsEffect SameCode where
  refl world := ⟨IsEffect.refl world, fun _ => rfl⟩
  trans first second :=
    ⟨IsEffect.trans first.toSameFrame second.toSameFrame,
      fun place => (second.row place).trans (first.row place)⟩

namespace SameFrame

variable {before after : World}

/-- The generators are the same one by one. -/
theorem generator (frame : SameFrame before after) (place : GeneratorId) :
    after.generator place = before.generator place := by
  rw [World.generator, World.generator, frame.generators]

/-- Functions are the same one by one. -/
theorem function (frame : SameFrame before after) (reference : FunctionRef) :
    after.function reference = before.function reference := by
  rw [World.function_eq, World.function_eq, frame.function?]

/-- Functions stand for the same routines. -/
theorem functionSymbol (frame : SameFrame before after) (reference : FunctionRef) :
    after.functionSymbol reference = before.functionSymbol reference := by
  rw [World.functionSymbol, World.functionSymbol, frame.function]

/-- Routines that are there stay there. -/
theorem isSome (frame : SameFrame before after) {symbol : SymbolRef}
    (known : (before.routine? symbol).isSome) : (after.routine? symbol).isSome := by
  obtain ⟨routine, found⟩ := Option.isSome_iff_exists.mp known
  have yields := frame.result symbol routine.result (by rw [found]; rfl)
  rw [← Option.isSome_map (f := Routine.result), yields]
  rfl

end SameFrame

/-- Two worlds in which all routines are the same, up to names and kept texts, and in which nothing
else of the code differs. -/
theorem SameCode.of_routines {before after : World}
    (generators : after.generators = before.generators)
    (function? : ∀ reference, after.function? reference = before.function? reference)
    (routine : ∀ symbol,
      (after.routine symbol).blocks.map Block.instructions =
          (before.routine symbol).blocks.map Block.instructions ∧
        (after.routine symbol).order = (before.routine symbol).order)
    (result : ∀ symbol type, (before.routine? symbol).map Routine.result = some type →
      (after.routine? symbol).map Routine.result = some type) :
    SameCode before after where
  generators := generators
  function? := function?
  blockCount symbol := by
    have same := congrArg List.length (routine symbol).1
    rwa [List.length_map, List.length_map] at same
  order symbol := (routine symbol).2
  result := result
  row place := by
    have same := congrArg (fun rows => rows[place.place]?) (routine place.routine).1
    simp only [List.getElem?_map] at same
    simp only [World.row, World.block]
    cases found : (after.routine place.routine).blocks[place.place]? <;>
      cases known : (before.routine place.routine).blocks[place.place]? <;>
      simp_all

/-! ## Changes of no code -/

namespace SameCode

variable (world : World)

/-- A changed routine that keeps its rows of instructions, its order and its result. -/
theorem changeRoutine (symbol : SymbolRef) {update : Routine → Routine}
    (blocks : ∀ routine, (update routine).blocks.map Block.instructions =
      routine.blocks.map Block.instructions)
    (order : ∀ routine, (update routine).order = routine.order)
    (result : ∀ routine, (update routine).result = routine.result) :
    SameCode world (world.changeRoutine symbol update) := by
  refine of_routines rfl (fun reference => world.function?_changeRoutine symbol update reference)
    (fun other => ?_) (fun other type known => ?_)
  · simp only [World.routine, World.routine?_changeRoutine]
    split
    next same =>
      subst same
      cases world.routine? other with
      | none => exact ⟨rfl, rfl⟩
      | some routine => exact ⟨blocks routine, order routine⟩
    next => exact ⟨rfl, rfl⟩
  · rw [World.routine?_changeRoutine]
    split
    next same =>
      subst same
      rw [Option.map_map]
      rwa [show Routine.result ∘ update = Routine.result from funext result]
    next => exact known

/-- A changed block that keeps its instructions. -/
theorem changeBlock (place : BlockRef) {update : Block → Block}
    (instructions : ∀ block, (update block).instructions = block.instructions) :
    SameCode world (world.changeBlock place update) := by
  refine changeRoutine world place.routine (fun routine => ?_) (fun _ => rfl) (fun _ => rfl)
  rw [Routine.changeBlock]
  refine List.ext_getElem? fun index => ?_
  simp only [List.getElem?_map, List.getElem?_modify]
  split
  · cases routine.blocks[index]? with
    | none => rfl
    | some block => exact congrArg some (instructions block)
  · rw [id_map']

/-- A changed global. -/
theorem changeGlobal (symbol : SymbolRef) (update : Global → Global) :
    SameCode world (world.changeGlobal symbol update) :=
  of_routines rfl (fun reference => world.function?_changeGlobal symbol update reference)
    (fun other => by simp only [World.routine, World.routine?_changeGlobal, and_self])
    (fun other type known => by rwa [World.routine?_changeGlobal])

/-- A library with more symbols of its module, none of which has blocks. -/
theorem addSymbols (place : LibraryId) {update : Library → Library} {added : Dictionary Key Symbol}
    (functions : ∀ library, (update library).functions = library.functions)
    (symbols : (update (world.library place)).module.symbols =
      (world.library place).module.symbols ++ added)
    (blank : ∀ entry ∈ added, ∀ routine, entry.2.content = .routine routine →
      routine.blocks = [] ∧ routine.order = []) :
    SameCode world (world.changeLibrary place update) := by
  -- The routines that were there stay, and what comes up looks like a routine that is not there.
  have routines (other : SymbolRef) :
      (world.changeLibrary place update).routine? other = world.routine? other ∨
        world.routine? other = none ∧ ∀ routine,
          (world.changeLibrary place update).routine? other = some routine →
            routine.blocks = [] ∧ routine.order = [] := by
    simp only [World.routine?, World.library_changeLibrary]
    split
    next same =>
      rw [same.1]
      simp only [Module.routine?_eq, Module.symbol?, symbols, List.getElem?_append]
      split
      · exact .inl rfl
      next beyond =>
        right
        refine ⟨by rw [List.getElem?_eq_none (Nat.le_of_not_lt beyond)]; rfl, ?_⟩
        intro routine found
        rcases at_end : added[other.place - (world.library place).module.symbols.length]?
          with _ | entry
        · rw [at_end] at found
          cases found
        · rw [at_end] at found
          have member := List.mem_of_getElem? at_end
          obtain ⟨key, name, content⟩ := entry
          cases content with
          | global global => cases found
          | routine declared =>
              cases found
              exact blank _ member _ rfl
    next => exact .inl rfl
  refine of_routines rfl (fun reference => ?_) (fun other => ?_) (fun other type known => ?_)
  · simp only [World.function?, World.library_changeLibrary]
    split
    next same => rw [functions, same.1]
    next => rfl
  · rcases routines other with same | ⟨missing, blank⟩
    · simp only [World.routine, same, and_self]
    · rw [World.routine, World.routine, missing]
      rcases found : (world.changeLibrary place update).routine? other with _ | routine
      · exact ⟨rfl, rfl⟩
      · obtain ⟨blocks, order⟩ := blank routine found
        simp only [Option.getD_some, blocks, order]
        exact ⟨rfl, rfl⟩
  · rcases routines other with same | ⟨missing, -⟩
    · rwa [same]
    · rw [missing] at known
      cases known

end SameCode

/-! ## Texts and declarations change no code -/

instance : AllowsTexts SameCode where
  held _ _ _ := SameCode.of_routines rfl (fun _ => rfl) (fun _ => ⟨rfl, rfl⟩) (fun _ _ => id)
  block world place _ := SameCode.changeBlock world place fun _ => rfl
  global world symbol _ := SameCode.changeGlobal world symbol _

instance : AllowsSymbols SameCode where
  intern place text world := by
    have change : (Build.internString place text).after world =
        world.changeLibrary place fun library =>
          { library with
            pool := ((world.library place).pool.intern (world.library place).module text).2.1
            module :=
              ((world.library place).pool.intern (world.library place).module text).2.2 } := rfl
    rw [change]
    unfold StringPool.intern
    split
    · exact SameCode.addSymbols world place (fun _ => rfl) (List.append_nil _).symm (by simp)
    · refine SameCode.addSymbols world place (fun _ => rfl) rfl fun entry member routine claimed => ?_
      obtain rfl := List.mem_singleton.mp member
      cases claimed
  routine place name result parameters isVariadic world := by
    rcases declared : (world.library place).module.declare name.key
        ⟨name.shown, .routine (.declare result parameters isVariadic)⟩ with fault | module
    · have same : (Build.declareSymbol place name
          (.routine (.declare result parameters isVariadic))).after world = world := by
        simp only [Build.after, Build.declareSymbol, bind, EStateM.bind, get, getThe,
          MonadStateOf.get, EStateM.get, declared]
        rfl
      rw [same]
      exact IsEffect.refl world
    · have change : (Build.declareSymbol place name
          (.routine (.declare result parameters isVariadic))).after world =
            world.changeModule place fun _ => module := by
        simp only [Build.after, Build.declareSymbol, bind, EStateM.bind, get, getThe,
          MonadStateOf.get, EStateM.get, declared]
        rfl
      rw [change]
      unfold Module.declare at declared
      split at declared
      · cases declared
      · cases declared
        refine SameCode.addSymbols world place (fun _ => rfl) rfl
          fun entry member routine claimed => ?_
        obtain rfl := List.mem_singleton.mp member
        cases claimed
        exact ⟨rfl, rfl⟩

/-! ## Adding instructions -/

/-- **One row differs** between two worlds, as a change of rows says. -/
structure ChangesRow (place : BlockRef) (change : List Instruction → List Instruction)
    (before after : World) : Prop extends SameFrame before after where
  /-- The row of the block is changed, if the block is there, and no other row. -/
  row (other : BlockRef) :
    after.row other =
      if other = place ∧ place.place < before.blockCount place.routine then
        change (before.row place)
      else before.row other

/-- Whether a block is ended can be seen from its instructions. -/
theorem World.isTerminated_eq (world : World) (place : BlockRef) :
    world.isTerminated place =
      (world.row place).any fun instruction => instruction.operation.isTerminator := rfl

/-- A changed block behind changes of no code. -/
theorem SameCode.changesRow {before between : World} (same : SameCode before between)
    (place : BlockRef) {update : Block → Block} {change : List Instruction → List Instruction}
    (instructions : ∀ block, (update block).instructions = change block.instructions) :
    ChangesRow place change before (between.changeBlock place update) where
  generators := same.generators
  function? reference := by rw [World.function?_changeBlock, same.function?]
  blockCount symbol := by rw [World.blockCount_changeBlock, same.blockCount]
  order symbol := by rw [World.order_changeBlock, same.order]
  result symbol type known := by
    have still := same.result symbol type known
    simp only [World.changeBlock, World.routine?_changeRoutine]
    split
    next equal =>
      subst equal
      rw [Option.map_map]
      exact still
    next => exact still
  row other := by
    have before_row : (between.block place).instructions = before.row place := same.row place
    rw [World.row_changeBlock, same.blockCount, same.row other, instructions, before_row]

/-- What changes a row behind changes of no code changes it. -/
theorem ChangesRow.behind {place : BlockRef} {change : List Instruction → List Instruction}
    {before between after : World} (changes : ChangesRow place change between after)
    (same : SameCode before between) : ChangesRow place change before after where
  toSameFrame := IsEffect.trans same.toSameFrame changes.toSameFrame
  row other := by rw [changes.row other, same.blockCount, same.row, same.row]

namespace Build

@[grind .]
theorem leads_freshName (symbol : SymbolRef) (base : String) :
    Leads SameCode (freshName symbol base) := by
  intro world
  exact SameCode.changeRoutine world symbol (fun _ => rfl) (fun _ => rfl) (fun _ => rfl)

/-- Making an instruction takes a name and changes no code. -/
@[grind .]
theorem leads_instruction (place : BlockRef) (base : String) (operation : Operation) :
    Leads SameCode (instruction place base operation) := by
  grind [instruction]

/-- An instruction does its operation. One that ends a block is made only for a block that is not
ended. -/
theorem instruction_ok {place : BlockRef} {base : String} {operation : Operation}
    {world final : World} {made : Instruction}
    (run : instruction place base operation world = .ok made final) :
    made.operation = operation ∧ operation.check = .ok made.type ∧
      (operation.isTerminator = true → world.isTerminated place = false) := by
  obtain ⟨type, between, lifted, run⟩ := bind_eq_ok.mp run
  obtain ⟨checked, rfl⟩ := lift_eq_ok.mp lifted
  obtain ⟨name, named, naming, run⟩ := bind_eq_ok.mp run
  obtain ⟨seen, _, looked, run⟩ := bind_eq_ok.mp run
  obtain ⟨rfl, rfl⟩ := get_eq_ok.mp looked
  have same := (leads_freshName place.routine base).of_ok naming
  dsimp only at run
  split at run
  · cases run
  next free =>
    cases run
    refine ⟨rfl, checked, fun ends => ?_⟩
    rw [ends, Bool.true_and, Bool.not_eq_true, World.isTerminated_eq, same.row] at free
    exact free

/-- An instruction that passes its checks is made, unless it would end a block that is ended. -/
theorem instruction_succeeds (place : BlockRef) (base : String) {operation : Operation}
    (world : World) {type : IRType} (checked : operation.check = .ok type)
    (free : operation.isTerminator = true → world.isTerminated place = false) :
    ∃ made final, instruction place base operation world = .ok made final := by
  cases run : instruction place base operation world with
  | ok made final => exact ⟨made, final, rfl⟩
  | error fault final =>
      exfalso
      rcases bind_eq_error.mp run with failed | ⟨known, between, lifted, run⟩
      · rw [checked] at failed
        cases failed
      obtain ⟨-, rfl⟩ := lift_eq_ok.mp lifted
      rcases bind_eq_error.mp run with failed | ⟨name, named, naming, run⟩
      · cases failed
      have same := (leads_freshName place.routine base).of_ok naming
      rcases bind_eq_error.mp run with failed | ⟨seen, _, looked, run⟩
      · cases failed
      obtain ⟨rfl, rfl⟩ := get_eq_ok.mp looked
      dsimp only at run
      split at run
      next ends =>
        rw [Bool.and_eq_true, World.isTerminated_eq, same.row, ← World.isTerminated_eq] at ends
        rw [free ends.1] at ends
        cases ends.2
      next => cases run

/-- **Adding an instruction** adds it at the end of the block, and nowhere else. -/
theorem emit_ok {place : BlockRef} {operation : Operation} {world final : World} {value : Operand}
    (run : emit place operation world = .ok value final) :
    ∃ made : Instruction, made.operation = operation ∧ operation.check = .ok made.type ∧
      value = made.result place.routine ∧
      (operation.isTerminator = true → world.isTerminated place = false) ∧
        ChangesRow place (· ++ [made]) world final := by
  obtain ⟨made, between, making, run⟩ := bind_eq_ok.mp run
  obtain ⟨_, changed, change, run⟩ := bind_eq_ok.mp run
  obtain rfl := modify_eq_ok.mp change
  obtain ⟨rfl, rfl⟩ := pure_eq_ok.mp run
  obtain ⟨does, checked, free⟩ := instruction_ok making
  have same := (leads_instruction place "" operation).of_ok making
  exact ⟨made, does, checked, rfl, free, same.changesRow place fun _ => rfl⟩

/-- An instruction that passes its checks is added, unless it would end a block that is ended. -/
theorem emit_succeeds (place : BlockRef) {operation : Operation} (world : World) {type : IRType}
    (checked : operation.check = .ok type)
    (free : operation.isTerminator = true → world.isTerminated place = false) :
    ∃ value final, emit place operation world = .ok value final := by
  obtain ⟨made, between, making⟩ := instruction_succeeds place "" world checked free
  exact ⟨_, _, bind_eq_ok.mpr ⟨made, between, making, rfl⟩⟩

/-- An instruction that is refused leaves the code as it is. -/
theorem emit_error {place : BlockRef} {operation : Operation} {world final : World} {fault : Fault}
    (run : emit place operation world = .error fault final) : SameCode world final := by
  unfold emit at run
  cases making : instruction place "" operation world with
  | ok made between =>
      simp only [bind, EStateM.bind, making] at run
      cases run
  | error fault between =>
      simp only [bind, EStateM.bind, making] at run
      cases run
      exact (leads_instruction place "" operation).of_error making

/-- **A step that fails leads only where an effect permits.** One that succeeds may lead elsewhere. -/
def FailsIn (Effect : World → World → Prop) (step : Build Result) : Prop :=
  ∀ world fault final, step world = .error fault final → Effect world final

namespace FailsIn

variable {Effect : World → World → Prop} {step : Build Result}

theorem of_leads (leads : Leads Effect step) : FailsIn Effect step :=
  fun _ _ _ => leads.of_error

/-- What comes behind a step that leads where an effect permits may do more, unless it fails. -/
theorem bind [IsEffect Effect] {next : Result → Build Next} (first : Leads Effect step)
    (second : ∀ value, FailsIn Effect (next value)) : FailsIn Effect (step >>= next) := by
  intro world fault final run
  rcases bind_eq_error.mp run with failed | ⟨value, between, stepping, failed⟩
  · exact first.of_error failed
  · exact IsEffect.trans (first.of_ok stepping) (second value between fault final failed)

/-- Behind a step that may fail there may be one that always succeeds. -/
theorem andThen {next : Result → Build Next} (fails : FailsIn Effect step)
    (succeeds : ∀ value world, (next value).succeeds world = true) :
    FailsIn Effect (step >>= next) := by
  intro world fault final run
  rcases bind_eq_error.mp run with failed | ⟨value, between, -, failed⟩
  · exact fails world fault final failed
  · have succeeded := succeeds value between
    rw [Build.succeeds, failed] at succeeded
    cases succeeded

/-- Giving a result does not fail. -/
theorem result (fails : FailsIn Effect step) (result : Result → Next) :
    FailsIn Effect (step >>= fun value => pure (result value)) :=
  fails.andThen fun _ _ => rfl

end FailsIn

theorem failsIn_emit (place : BlockRef) (operation : Operation) :
    FailsIn SameCode (emit place operation) :=
  fun _ _ _ => emit_error

/-- **Adding an instruction at the start** of a block changes nothing else. -/
theorem emitFirst_ok {place : BlockRef} {base : String} {operation : Operation}
    {world final : World} {value : Operand}
    (run : emitFirst place base operation world = .ok value final) :
    ∃ made : Instruction, made.operation = operation ∧ operation.check = .ok made.type ∧
      value = made.result place.routine ∧ ChangesRow place (made :: ·) world final := by
  obtain ⟨made, between, making, run⟩ := bind_eq_ok.mp run
  obtain ⟨_, changed, change, run⟩ := bind_eq_ok.mp run
  obtain rfl := modify_eq_ok.mp change
  obtain ⟨rfl, rfl⟩ := pure_eq_ok.mp run
  have same := (leads_instruction place base operation).of_ok making
  obtain ⟨does, checked, -⟩ := instruction_ok making
  exact ⟨made, does, checked, rfl, same.changesRow place fun _ => rfl⟩

/-- An instruction that passes its checks and ends no block is added at the start of a block. -/
theorem emitFirst_succeeds (place : BlockRef) (base : String) {operation : Operation}
    (world : World) {type : IRType} (checked : operation.check = .ok type)
    (straight : operation.isTerminator = false) :
    ∃ value final, emitFirst place base operation world = .ok value final := by
  obtain ⟨made, between, making⟩ := instruction_succeeds place base world checked fun ends => by
    rw [straight] at ends
    cases ends
  exact ⟨_, _, bind_eq_ok.mpr ⟨made, between, making, rfl⟩⟩

/-- An instruction that is refused at the start of a block leaves the code as it is. -/
theorem emitFirst_error {place : BlockRef} {base : String} {operation : Operation}
    {world final : World} {fault : Fault}
    (run : emitFirst place base operation world = .error fault final) :
    SameCode world final := by
  unfold emitFirst at run
  cases making : instruction place base operation world with
  | ok made between =>
      simp only [bind, EStateM.bind, making] at run
      cases run
  | error fault between =>
      simp only [bind, EStateM.bind, making] at run
      cases run
      exact (leads_instruction place base operation).of_error making

/-- **What adding an instruction changes**: no code, or one row that is longer. -/
theorem emit_cases (place : BlockRef) (operation : Operation) (world : World) :
    SameCode world ((emit place operation).after world) ∨
      ∃ made : Instruction, made.operation = operation ∧
        ChangesRow place (· ++ [made]) world ((emit place operation).after world) := by
  cases run : emit place operation world with
  | error fault final =>
      rw [after_of_error run]
      exact .inl (emit_error run)
  | ok value final =>
      obtain ⟨made, does, -, -, -, changes⟩ := emit_ok run
      rw [after_of_ok run]
      exact .inr ⟨made, does, changes⟩

/-- So does adding one at the start. -/
theorem emitFirst_cases (place : BlockRef) (base : String) (operation : Operation) (world : World) :
    SameCode world ((emitFirst place base operation).after world) ∨
      ∃ made : Instruction, made.operation = operation ∧
        ChangesRow place (made :: ·) world ((emitFirst place base operation).after world) := by
  cases run : emitFirst place base operation world with
  | error fault final =>
      rw [after_of_error run]
      exact .inl (emitFirst_error run)
  | ok value final =>
      obtain ⟨made, does, -, -, changes⟩ := emitFirst_ok run
      rw [after_of_ok run]
      exact .inr ⟨made, does, changes⟩

end Build

end StructuredIR
