import StructuredIR.Proofs.Conforming
import StructuredIR.Proofs.Discipline.Requests
import StructuredIR.Proofs.Library.Signatures
import StructuredIR.Proofs.Returns.Setup

/-! # How blocks end

Blocks end with conditional branches and with returns. What is branched on, and what is returned in
place, comes of a value that a request gives; what is returned from the return block comes from a
slot, whose type nobody chooses.

* **`World.returns?`** is what a function returns, if it is there with its routine; no operation of
  a generator changes it.
* **`Endings`** says which values may be branched on and returned, and **`Endings.Permits`** which
  operations this permits. **`Endings.discipline`** is the discipline of adding only those.
* **`Endings.Holds.visits`** is what comes of it: whatever its clients do, each instruction was there
  or is permitted. -/

namespace StructuredIR

open Build (Leads Follows)

/-! ## What functions return -/

namespace World

/-- **What a function returns**, if the function and its routine are there. -/
def returns? (world : World) (reference : FunctionRef) : Option IRType :=
  (world.function? reference).bind fun _ =>
    (world.routine? (world.functionSymbol reference)).map Routine.result

variable {before after world : World} {reference : FunctionRef} {type : IRType}

/-- A function returns a type if it is there and its routine yields the type. -/
theorem returns?_eq_some :
    world.returns? reference = some type ↔ (world.function? reference).isSome ∧
      (world.routine? (world.functionSymbol reference)).map Routine.result = some type := by
  rw [returns?, Option.isSome_iff_exists]
  cases world.function? reference <;> simp

/-- What a function returns is what its routine yields. -/
theorem result_of_returns? (known : world.returns? reference = some type) :
    (world.routineOf reference).result = type := by
  obtain ⟨-, yields⟩ := returns?_eq_some.mp known
  obtain ⟨routine, found, same⟩ := Option.map_eq_some_iff.mp yields
  rw [routineOf, World.routine, found]
  exact same

end World

/-- A function returns what it did if it stands for the same routine and routines yield what they
did. -/
theorem World.returns?_of_same {before after : World} {reference : FunctionRef} {type : IRType}
    (function? : after.function? reference = before.function? reference)
    (result : ∀ symbol type, (before.routine? symbol).map Routine.result = some type →
      (after.routine? symbol).map Routine.result = some type)
    (known : before.returns? reference = some type) : after.returns? reference = some type := by
  rw [returns?_eq_some] at known ⊢
  rw [functionSymbol, function_eq, function?, ← function_eq, ← functionSymbol]
  exact ⟨known.1, result _ _ known.2⟩

/-- A function returns what it did as long as only instructions change. -/
theorem SameFrame.returns? {before after : World} (frame : SameFrame before after)
    {reference : FunctionRef} {type : IRType} (known : before.returns? reference = some type) :
    after.returns? reference = some type :=
  World.returns?_of_same (frame.function? reference) frame.result known

/-- A function returns what it did as long as types are kept. -/
theorem World.KeepsTypes.returns? {before after : World} (keeps : before.KeepsTypes after)
    {reference : FunctionRef} {type : IRType} (known : before.returns? reference = some type) :
    after.returns? reference = some type := by
  rw [returns?_eq_some] at known ⊢
  obtain ⟨there, yields⟩ := known
  obtain ⟨routine, found, rfl⟩ := Option.map_eq_some_iff.mp yields
  obtain ⟨function, recorded⟩ := Option.isSome_iff_exists.mp there
  obtain ⟨entry, listed, rfl⟩ := Option.map_eq_some_iff.mp recorded
  have stands : before.functionSymbol reference = ⟨reference.owner, entry.2.symbol⟩ := by
    rw [functionSymbol, function_eq, recorded, Option.getD_some]
  -- The function stands for the same routine, which has the same type.
  obtain ⟨later, listedLater, same⟩ := (keeps reference.owner).symbol listed
  have recordedLater : after.function? reference = some later.2 := by
    rw [function?, listedLater, Option.map_some]
  have standsLater : after.functionSymbol reference = ⟨reference.owner, entry.2.symbol⟩ := by
    rw [functionSymbol, function_eq, recordedLater, Option.getD_some, same]
  rw [stands] at found
  obtain ⟨kept, foundLater, signature⟩ := keeps.routine? found
  refine ⟨Option.isSome_iff_exists.mpr ⟨_, recordedLater⟩, ?_⟩
  rw [standsLater, foundLater, Option.map_some]
  injection signature with result
  rw [result]

namespace Operation

/-- What is allocated is an address. -/
theorem check_alloca {allocated type : IRType} (checked : (alloca allocated none).check = .ok type) :
    type = .pointer allocated := by
  unfold check at checked
  cases allocated <;> first | exact (Except.ok.inj checked).symm | cases checked

/-- What is loaded is what an address is of. -/
theorem check_load {pointer : Operand} {target type : IRType} (address : pointer.type = .pointer target)
    (checked : (load pointer).check = .ok type) : type = target := by
  simp only [check, address, Except.ok.injEq] at checked
  exact checked.symm

end Operation

/-! ## Endings -/

/-- **How generators may end blocks**: what is known of what their functions return, and the values
that are given to branch on and to return in place. -/
structure Endings where
  /-- The generators, those included that are still to come. -/
  Owns : GeneratorId → Prop
  /-- The functions that the generators are for. -/
  Serves : FunctionRef → Prop
  /-- What functions return, as far as it is known. -/
  result? : FunctionRef → Option IRType
  /-- The values that are branched on. -/
  Tests : Value → Prop
  /-- The values that are returned in place, where it is done. -/
  Yields : World → Value → Prop

namespace Endings

variable {endings : Endings} {world before after : World} {reference : FunctionRef}

/-- **The operations that endings permit**: conditional branches on what is made of a value that is
tested, and returns of what the function returns or of what is made of a value that is returned in
place. -/
def Permits (endings : Endings) : Operation → Prop
  | .branchIf condition _ _ => ∃ world value, endings.Tests value ∧
      Coercion.Makes world value (some Generator.conditionType) condition
  | .retVoid => ∃ reference, endings.Serves reference ∧
      ∀ type ∈ endings.result? reference, type = .void
  | .ret operand => ∃ reference, endings.Serves reference ∧
      ∀ type ∈ endings.result? reference, type ≠ .void ∧
        (operand.type = type ∨ ∃ world value, endings.Yields world value ∧
          Coercion.Makes world value (some type) operand)
  | _ => True

/-- What ends no block is permitted. -/
theorem permits_of_not_isTerminator {operation : Operation}
    (straight : operation.isTerminator = false) : endings.Permits operation := by
  unfold Permits
  split
  · cases straight
  · cases straight
  · cases straight
  · trivial

/-- Generators are assigned, and the functions return what is known of them, and their slots hold it. -/
structure Holds (endings : Endings) (world : World) : Prop
    extends world.Assigns endings.Owns endings.Serves where
  /-- Functions return what is known of them. -/
  results (reference : FunctionRef) (type : IRType) : endings.result? reference = some type →
    world.returns? reference = some type
  /-- Slots are addresses of what is returned. -/
  slots (reference : FunctionRef) (type : IRType) (slot : Operand) :
    endings.result? reference = some type → (world.function reference).slot = some slot →
      slot.type = .pointer type

/-- **The code has grown** by instructions that are permitted. -/
structure Later (endings : Endings) (before after : World) : Prop where
  /-- The functions return what is known of them. -/
  holds : endings.Holds after
  /-- Generators are still there. -/
  generators : before.generators.length ≤ after.generators.length
  /-- Each instruction was there, or is permitted. -/
  code (block : BlockRef) : ∀ instruction ∈ after.row block,
    instruction ∈ before.row block ∨ endings.Permits instruction.operation

instance : IsCourse endings.Later where
  trans first second :=
    { holds := second.holds
      generators := first.generators.trans second.generators
      code := fun block instruction member => by
        rcases second.code block instruction member with known | permitted
        · exact first.code block instruction known
        · exact .inr permitted }
  arrives later := ⟨later.holds, Nat.le_refl _, fun _ _ => .inl⟩

namespace Holds

/-- Nothing has grown yet. -/
theorem refl (holds : endings.Holds world) : endings.Later world world :=
  ⟨holds, Nat.le_refl _, fun _ _ => .inl⟩

/-- **What keeps a world on the course**: the generators are the same, functions return what they
did, new slots hold it and new instructions are permitted. -/
theorem later (holds : endings.Holds before) (generators : after.generators = before.generators)
    (results : ∀ reference type, before.returns? reference = some type →
      after.returns? reference = some type)
    (slots : ∀ reference slot, (after.function reference).slot = some slot →
      (before.function reference).slot = some slot ∨
        ∀ type, endings.result? reference = some type → slot.type = .pointer type)
    (code : ∀ block, ∀ instruction ∈ after.row block,
      instruction ∈ before.row block ∨ endings.Permits instruction.operation) :
    endings.Later before after where
  holds :=
    { toAssigns := holds.toAssigns.of_generators generators
      results := fun reference type known => results _ _ (holds.results reference type known)
      slots := fun reference type slot known there => by
        rcases slots reference slot there with before | typed
        · exact holds.slots reference type slot known before
        · exact typed type known }
  generators := generators ▸ Nat.le_refl _
  code := code

/-- Instructions and blocks may change where functions are the same and new instructions are
permitted. -/
theorem later_of_frame (holds : endings.Holds before) (frame : SameFrame before after)
    (code : ∀ block, ∀ instruction ∈ after.row block,
      instruction ∈ before.row block ∨ endings.Permits instruction.operation) :
    endings.Later before after :=
  holds.later frame.generators (fun _ _ => frame.returns?)
    (fun reference slot there => .inl (by rwa [← frame.function])) code

/-- Nothing has grown where no code has changed. -/
theorem later_of_sameCode (holds : endings.Holds before) (same : SameCode before after) :
    endings.Later before after :=
  holds.later_of_frame same.toSameFrame fun block _ member => .inl (same.row block ▸ member)

/-- Nothing has grown where no instruction has changed and types are kept. -/
theorem later_of_sameRows (holds : endings.Holds before) (same : SameRows before after)
    (keeps : before.KeepsTypes after) : endings.Later before after := by
  refine holds.later same.generators (fun _ _ => keeps.returns?) (fun reference slot there => ?_)
    fun block _ member => .inl (same.row block ▸ member)
  rw [World.function_eq, same.function?, ← World.function_eq] at there
  exact .inl there

/-- Code has grown by one instruction, which is permitted, at the start or at the end of a block. -/
theorem later_of_changesRow (holds : endings.Holds before) {block : BlockRef} {made : Instruction}
    {change : List Instruction → List Instruction} (changes : ChangesRow block change before after)
    (adds : ∀ row, ∀ instruction ∈ change row, instruction = made ∨ instruction ∈ row)
    (permitted : endings.Permits made.operation) : endings.Later before after := by
  refine holds.later_of_frame changes.toSameFrame fun other instruction member => ?_
  rw [changes.row] at member
  split at member
  next same =>
    rcases adds _ instruction member with rfl | known
    · exact .inr permitted
    · exact .inl (same.1 ▸ known)
  next => exact .inl member

/-- An instruction that is permitted may be added. -/
theorem emit {block : BlockRef} {operation : Operation} (holds : endings.Holds world)
    (permitted : endings.Permits operation) :
    endings.Later world ((Build.emit block operation).after world) := by
  rcases Build.emit_cases block operation world with same | ⟨made, rfl, changes⟩
  · exact holds.later_of_sameCode same
  · exact holds.later_of_changesRow changes (fun row instruction member =>
      (List.mem_append.mp member).symm.imp_left List.mem_singleton.mp) permitted

/-- So may one at the start of a block. -/
theorem emitFirst {block : BlockRef} {base : String} {operation : Operation}
    (holds : endings.Holds world) (permitted : endings.Permits operation) :
    endings.Later world ((Build.emitFirst block base operation).after world) := by
  rcases Build.emitFirst_cases block base operation world with same | ⟨made, rfl, changes⟩
  · exact holds.later_of_sameCode same
  · exact holds.later_of_changesRow changes (fun row instruction => List.mem_cons.mp) permitted

/-- A function may be given a slot that holds what it returns, or a return block. -/
theorem changeFunction {update : Function → Function} (holds : endings.Holds world)
    (symbol : ∀ function, (update function).symbol = function.symbol)
    (slots : ∀ function slot, (update function).slot = some slot → function.slot = some slot ∨
      ∀ type, endings.result? reference = some type → slot.type = .pointer type) :
    endings.Later world (world.changeFunction reference update) := by
  have keeps := World.KeepsTypes.of_changeFunction world reference symbol
  refine holds.later rfl (fun _ _ => keeps.returns?) (fun other slot known => ?_)
    fun block instruction member => .inl (by rwa [World.row_changeFunction] at member)
  rcases World.slot_changeFunction world known with before | ⟨rfl, given⟩
  · exact .inl before
  · exact slots _ slot given

/-- A function yields what it is known to return. -/
theorem result_eq (holds : endings.Holds world) {type : IRType}
    (known : endings.result? reference = some type) : (world.routineOf reference).result = type :=
  World.result_of_returns? (holds.results reference type known)

/-- **The steps that set up shared returns** are permitted: the slot holds what the function returns,
and this is what is loaded and returned. -/
theorem setUpSteps (holds : endings.Holds world) (serves : endings.Serves reference) :
    Function.SetUpSteps endings.Later reference (world.routineOf reference).result
      (fun slot => ∀ type, endings.result? reference = some type → slot.type = .pointer type)
      (fun value => ∀ type, endings.result? reference = some type → value.type = type) world where
  allocates entry := by
    refine .of_step (holds.emitFirst trivial) fun slot final run type known => ?_
    obtain ⟨made, -, checked, rfl, -⟩ := Build.emitFirst_ok run
    exact holds.result_eq known ▸ Operation.check_alloca checked
  records later typed := by
    refine later.holds.changeFunction (fun _ => rfl) fun function other known => .inr ?_
    cases known
    exact typed
  appends {middle} later :=
    later.holds.later_of_sameRows (Function.sameRows_appendNamed reference "return" middle)
      (Function.leads_appendNamed reference "return" middle)
  enters _ later := later.holds.changeFunction (fun _ => rfl) fun _ _ => .inl
  loads _ later typed := by
    refine .of_step (later.holds.emit trivial) fun value final run type known => ?_
    obtain ⟨made, -, checked, rfl, -⟩ := Build.emit_ok run
    exact Operation.check_load (typed type known) checked
  returns _ later yields typed :=
    later.holds.emit ⟨reference, serves, fun type known =>
      ⟨holds.result_eq known ▸ yields, .inl (typed type known)⟩⟩
  leaves _ later nothing :=
    later.holds.emit ⟨reference, serves, fun _ known => holds.result_eq known ▸ nothing⟩

/-- Where no code differs nothing has grown, so texts may be pooled and routines declared. -/
theorem allowsSymbols : AllowsSymbols (Along endings.Later) :=
  .of_sameCode fun _ _ same later => later.holds.later_of_sameCode same

end Holds

/-- **The discipline of endings**: generators are for functions that are served, at any blocks, and
add only what is permitted. -/
def discipline (endings : Endings) : Discipline where
  Course := endings.Later
  Owns := endings.Owns
  Serves := endings.Serves
  Spot _ _ := True
  Citable _ := True
  Permits := endings.Permits
  Tests := endings.Tests
  Yields := endings.Yields
  isCourse := inferInstance
  generators later := later.generators
  spot _ _ := trivial
  fresh valid := valid.holds.fresh _ (Nat.le_refl _)
  function valid owned inside := valid.holds.own _ inside owned
  position _ _ _ := trivial
  entry _ _ := trivial
  slot _ _ _ _ := trivial
  cite _ _ := trivial
  symbols _ :=
    have : AllowsSymbols (Along endings.Later) := Holds.allowsSymbols
    inferInstance
  straight := permits_of_not_isTerminator
  branch _ := trivial
  branchIf _ _ tests makes := ⟨_, _, tests, makes⟩
  retVoid {world reference} valid serves nothing := by
    refine ⟨reference, serves, fun type known => ?_⟩
    rw [← nothing, valid.holds.result_eq known]
  ret {world reference value operand} valid serves returns yields makes := by
    refine ⟨reference, serves, fun type known => ?_⟩
    rw [valid.holds.result_eq known] at returns makes
    exact ⟨returns, .inr ⟨world, value, yields, makes⟩⟩
  emit valid _ permitted _ := valid.holds.emit permitted
  changeGenerator {world place update} valid function _ :=
    ⟨⟨valid.holds.toAssigns.changeGenerator function, valid.holds.results, valid.holds.slots⟩,
      (world.length_changeGenerator place update).ge, fun _ _ => .inl⟩
  addGenerator valid serves _ :=
    ⟨⟨valid.holds.toAssigns.addGenerator serves, valid.holds.results, valid.holds.slots⟩,
      List.length_append ▸ Nat.le_add_right _ _, fun _ _ => .inl⟩
  appendNamed {world reference} base valid _ :=
    valid.holds.later_of_sameRows (Function.sameRows_appendNamed reference base world)
      (Function.leads_appendNamed reference base world)
  spotNamed _ _ _ := trivial
  appendBlock {world reference} base valid _ :=
    valid.holds.later_of_sameRows (Function.sameRows_appendBlock reference base world)
      (Function.leads_appendBlock reference base world)
  spotBlock _ _ _ := trivial
  moveAfter {world reference moved} anchor valid _ _ :=
    valid.holds.later_of_sameRows (Function.sameRows_moveAfter reference moved anchor world)
      (Function.leads_moveAfter reference moved anchor world)
  setUpReturn valid serves := (valid.holds.setUpSteps serves).course valid

/-- A request of a generator in use is allowed by the values that it tests and returns in place. -/
theorem allows {place : GeneratorId} {request : Request} {interpret : Value → Callback}
    (owned : endings.Owns place)
    (tests : ∀ value, request.Tests interpret value → endings.Tests value)
    (yields : ∀ value, request.returned? = some value → endings.Yields world value) :
    endings.discipline.Allows world place request interpret :=
  ⟨owned, fun _ => trivial, fun _ _ _ _ _ => trivial, tests, yields⟩

/-- **What clients add is permitted.** -/
theorem Holds.visits {client : Client} (holds : endings.Holds world)
    (allowed : client.Admits endings.discipline.Allows world) {middle : World}
    (visits : client.Visits world middle) : endings.Later world middle :=
  (Discipline.visits holds.refl allowed (client.ends_of_forall fun _ _ _ _ => trivial) visits).1

end Endings

end StructuredIR
