import StructuredIR.Proofs.Blocks
import StructuredIR.Proofs.Discipline.Requests
import StructuredIR.Proofs.Library.Gains
import StructuredIR.Proofs.Returns.Setup

/-! # What the code of a library cites

A module is closed if its code cites only routines of its own. Functions come in at two doors. What
is called is declared in the library that calls it, wherever the function is from; a function that is
used as a value is handed on as it is, so it has to be a function of the library itself.

* **`Enclosure`** is a library with the generators for its functions; **`Enclosure.discipline`** is the
  discipline of using as values only what stays in the library.
* **`Function.callee_standsIn`** is the first door: it gives a routine that stands for the function in
  the library that calls.
* **`World.SlotsStayIn.encloses`** says what all that is done for a library cites, and
  **`World.borrowed_cites`** how a function of another library gets in at the second door. -/

namespace StructuredIR

open Build (Leads Follows bind_eq_ok get_eq_ok modify_eq_ok pure_eq_ok lift_eq_ok throw_ne_ok)

/-! ## What stays in a library -/

section

variable (place : LibraryId)

/-- An operand that cites only routines of a library. -/
def Operand.StaysIn (operand : Operand) : Prop :=
  ∀ symbol, operand.Cites symbol → symbol.owner = place

/-- A value that cites only routines of a library, in every world. -/
def Value.StaysIn (value : Value) : Prop :=
  ∀ world symbol, value.Cites world symbol → symbol.owner = place

/-- An operation that works only on operands that cite routines of a library. -/
def Operation.StaysIn (operation : Operation) : Prop :=
  ∀ operand ∈ operation.uses, operand.StaysIn place

/-- All slots of the functions of a library cite only routines of the library. -/
def World.SlotsStayIn (world : World) : Prop :=
  ∀ reference slot, reference.owner = place → (world.function reference).slot = some slot →
    slot.StaysIn place

/-- A generator of a library, or one that is still to come. -/
def World.BuildsIn (world : World) (generator : GeneratorId) : Prop :=
  generator < world.generators.length → (world.generator generator).function.owner = place

end

/-- A function that is used as a value stays where it is declared. -/
theorem Value.staysIn_function {place : LibraryId} {reference : FunctionRef} :
    (Value.function reference).StaysIn place ↔ reference.owner = place := by
  constructor
  · intro stays
    exact stays default _ (cites_function.mpr rfl)
  · intro owner world symbol cites
    rw [← cites_function.mp cites]
    exact owner

/-- What cites nothing stays everywhere. -/
theorem Value.staysIn_of_isAtom {value : Value} (atom : value.isAtom = true) (place : LibraryId) :
    value.StaysIn place :=
  fun _ _ cites => (Value.not_cites_of_isAtom atom cites).elim

/-- A register or a number stays everywhere. -/
theorem Operand.staysIn_of_isAtom {operand : Operand} (atom : operand.isAtom = true)
    (place : LibraryId) : operand.StaysIn place :=
  fun _ cites => (not_cites_of_isAtom atom cites).elim

/-! ## The discipline of a library -/

/-- **A library and the generators for its functions**, those included that are still to come. -/
structure Enclosure where
  /-- The library. -/
  place : LibraryId
  /-- The generators. -/
  Owns : GeneratorId → Prop

namespace Enclosure

variable {site : Enclosure} {world before after : World}

/-- The generators of a library are for its functions, whose slots cite nothing else. -/
structure Holds (site : Enclosure) (world : World) : Prop where
  /-- Generators that are still to come are among them. -/
  fresh (generator : GeneratorId) : world.generators.length ≤ generator → site.Owns generator
  /-- They are for functions of the library. -/
  own (generator : GeneratorId) : generator < world.generators.length → site.Owns generator →
    (world.generator generator).function.owner = site.place
  /-- The slots of these functions stay in the library. -/
  slots : world.SlotsStayIn site.place

/-- **The code of a library has grown**, by instructions that stay in the library. -/
structure Later (site : Enclosure) (before after : World) : Prop where
  /-- The generators of the library are for its functions. -/
  holds : site.Holds after
  /-- Generators are still there. -/
  generators : before.generators.length ≤ after.generators.length
  /-- Each instruction was there, or stays in the library. -/
  code (block : BlockRef) : ∀ instruction ∈ after.row block,
    instruction ∈ before.row block ∨ instruction.operation.StaysIn site.place

instance : IsCourse site.Later where
  trans first second :=
    { holds := second.holds
      generators := first.generators.trans second.generators
      code := fun block instruction member => by
        rcases second.code block instruction member with known | stays
        · exact first.code block instruction known
        · exact .inr stays }
  arrives later := ⟨later.holds, Nat.le_refl _, fun _ _ => .inl⟩

/-- Nothing has grown yet. -/
theorem Holds.refl (holds : site.Holds world) : site.Later world world :=
  ⟨holds, Nat.le_refl _, fun _ _ => .inl⟩

/-- Generators are assigned to functions of the library. -/
theorem Holds.assigns (holds : site.Holds world) :
    world.Assigns site.Owns fun reference => reference.owner = site.place :=
  ⟨holds.fresh, holds.own⟩

/-- Where generators and functions are the same, the generators are still for the same functions. -/
theorem Holds.of_same (holds : site.Holds before) (generators : after.generators = before.generators)
    (function? : ∀ reference, after.function? reference = before.function? reference) :
    site.Holds after where
  fresh := (holds.assigns.of_generators generators).fresh
  own := (holds.assigns.of_generators generators).own
  slots reference slot owner known := by
    rw [World.function_eq, function?, ← World.function_eq] at known
    exact holds.slots reference slot owner known

/-- Where no instruction, function or generator has changed, nothing has grown. -/
theorem Holds.later_of_sameRows (holds : site.Holds before) (same : SameRows before after) :
    site.Later before after where
  holds := holds.of_same same.generators same.function?
  generators := same.generators ▸ Nat.le_refl _
  code block _ member := .inl (same.row block ▸ member)

/-- Code has grown by one instruction, which stays in the library, at the start or at the end of a
block. -/
theorem Holds.later_of_changesRow {block : BlockRef} {made : Instruction}
    {change : List Instruction → List Instruction} (holds : site.Holds before)
    (changes : ChangesRow block change before after)
    (adds : ∀ row, ∀ instruction ∈ change row, instruction = made ∨ instruction ∈ row)
    (stays : made.operation.StaysIn site.place) : site.Later before after where
  holds := holds.of_same changes.generators changes.function?
  generators := changes.generators ▸ Nat.le_refl _
  code other instruction member := by
    rw [changes.row] at member
    split at member
    next same =>
      rcases adds _ instruction member with rfl | known
      · exact .inr stays
      · exact .inl (same.1 ▸ known)
    next => exact .inl member

/-- An instruction that stays in the library may be added. -/
theorem Holds.emit {block : BlockRef} {operation : Operation} (holds : site.Holds world)
    (stays : operation.StaysIn site.place) :
    site.Later world ((Build.emit block operation).after world) := by
  rcases Build.emit_cases block operation world with same | ⟨made, rfl, changes⟩
  · exact holds.later_of_sameRows same.sameRows
  · exact holds.later_of_changesRow changes (fun row instruction member =>
      (List.mem_append.mp member).symm.imp_left List.mem_singleton.mp) stays

/-- What comes up at the start of a block and stays in the library may be added. -/
theorem Holds.emitFirst {block : BlockRef} {base : String} {operation : Operation}
    (holds : site.Holds world) (stays : operation.StaysIn site.place) :
    site.Later world ((Build.emitFirst block base operation).after world) := by
  rcases Build.emitFirst_cases block base operation world with same | ⟨made, rfl, changes⟩
  · exact holds.later_of_sameRows same.sameRows
  · exact holds.later_of_changesRow changes (fun row instruction => List.mem_cons.mp) stays

/-- Texts may be pooled and routines declared. -/
theorem allowsSymbols : AllowsSymbols (Along site.Later) :=
  .of_sameCode fun _ _ same later => later.holds.later_of_sameRows same.sameRows

/-- A function may be given a slot that stays in the library, or a return block. -/
theorem Holds.changeFunction {reference : FunctionRef} {update : Function → Function}
    (holds : site.Holds world)
    (slots : ∀ function slot, (update function).slot = some slot →
      function.slot = some slot ∨ slot.StaysIn site.place) :
    site.Later world (world.changeFunction reference update) where
  holds :=
    { fresh := holds.fresh
      own := holds.own
      slots := fun other slot owner known => by
        rcases World.slot_changeFunction world known with before | ⟨rfl, given⟩
        · exact holds.slots other slot owner before
        · exact (slots _ slot given).elim (holds.slots other slot owner) id }
  generators := Nat.le_refl _
  code block instruction member := .inl (by rwa [World.row_changeFunction] at member)

/-- The steps that set up shared returns add only instructions that stay in the library: they work on
registers alone. -/
theorem Holds.setUpSteps (holds : site.Holds world) (reference : FunctionRef) (result : IRType) :
    Function.SetUpSteps site.Later reference result (·.isAtom = true) (·.isAtom = true) world where
  allocates entry := by
    refine .of_step (holds.emitFirst (by simp [Operation.StaysIn, Operation.uses]))
      fun slot final run => ?_
    obtain ⟨made, -, -, rfl, -⟩ := Build.emitFirst_ok run
    rfl
  records later atom := by
    refine later.holds.changeFunction fun function other known => .inr ?_
    cases known
    exact Operand.staysIn_of_isAtom atom site.place
  appends {middle} later :=
    later.holds.later_of_sameRows (Function.sameRows_appendNamed reference "return" middle)
  enters _ later := later.holds.changeFunction fun _ _ => .inl
  loads _ later atom := by
    refine .of_step (later.holds.emit ?_) fun value final run => ?_
    · simpa [Operation.StaysIn, Operation.uses] using Operand.staysIn_of_isAtom atom site.place
    · obtain ⟨made, -, -, rfl, -⟩ := Build.emit_ok run
      rfl
  returns _ later _ atom := by
    refine later.holds.emit ?_
    simpa [Operation.StaysIn, Operation.uses] using Operand.staysIn_of_isAtom atom site.place
  leaves _ later _ := later.holds.emit (by simp [Operation.StaysIn, Operation.uses])

/-- **The discipline of a library**: generators are for its functions, at blocks of any function, and
cite only its own routines. -/
def discipline (site : Enclosure) : Discipline where
  Course := site.Later
  Owns := site.Owns
  Serves reference := reference.owner = site.place
  Spot _ _ := True
  Citable symbol := symbol.owner = site.place
  Permits _ := True
  Tests _ := True
  Yields _ _ := True
  isCourse := inferInstance
  generators later := later.generators
  spot _ _ := trivial
  fresh valid := valid.holds.fresh _ (Nat.le_refl _)
  function valid owned inside := valid.holds.own _ inside owned
  position _ _ _ := trivial
  entry _ _ := trivial
  slot valid serves known cites := valid.holds.slots _ _ serves known _ cites
  cite serves owner := owner.trans serves
  symbols _ :=
    have := site.allowsSymbols
    inferInstance
  straight _ := trivial
  branch _ := trivial
  branchIf _ _ _ _ := trivial
  retVoid _ _ _ := trivial
  ret _ _ _ _ _ := trivial
  emit valid _ _ stays := valid.holds.emit stays
  changeGenerator {world place update} valid function _ :=
    have assigns := valid.holds.assigns.changeGenerator function
    ⟨⟨assigns.fresh, assigns.own, valid.holds.slots⟩, (world.length_changeGenerator place update).ge,
      fun _ _ => .inl⟩
  addGenerator valid serves _ :=
    have assigns := valid.holds.assigns.addGenerator serves
    ⟨⟨assigns.fresh, assigns.own, valid.holds.slots⟩, List.length_append ▸ Nat.le_add_right _ _,
      fun _ _ => .inl⟩
  appendNamed base valid _ :=
    valid.holds.later_of_sameRows (Function.sameRows_appendNamed _ base _)
  spotNamed _ _ _ := trivial
  appendBlock base valid _ :=
    valid.holds.later_of_sameRows (Function.sameRows_appendBlock _ base _)
  spotBlock _ _ _ := trivial
  moveAfter anchor valid _ _ :=
    valid.holds.later_of_sameRows (Function.sameRows_moveAfter _ _ anchor _)
  setUpReturn valid _ := (valid.holds.setUpSteps _ _).course valid

/-- The generators of a library, in a world in which its slots cite nothing else. -/
theorem holds_of_slots {place : LibraryId} (slots : world.SlotsStayIn place) :
    Holds ⟨place, world.BuildsIn place⟩ world where
  fresh _ beyond inside := (Nat.not_lt.mpr beyond inside).elim
  own _ inside owned := owned inside
  slots := slots

end Enclosure

/-- **What a client adds for a library stays in the library**, if all values that it uses do. It may
call functions of any library. -/
theorem World.SlotsStayIn.visits {world middle : World} {place : LibraryId} {client : Client}
    (slots : world.SlotsStayIn place)
    (allowed : client.Forall fun generator request =>
      world.BuildsIn place generator ∧ ∀ value ∈ request.operands, value.StaysIn place)
    (ends : client.Ends fun value => value.StaysIn place) (visits : client.Visits world middle)
    {block : BlockRef} {instruction : Instruction} (member : instruction ∈ middle.row block) :
    instruction ∈ world.row block ∨ instruction.operation.StaysIn place := by
  have holds := Enclosure.holds_of_slots slots
  have fits : client.Admits
      (Discipline.Allows (Enclosure.discipline ⟨place, world.BuildsIn place⟩)) world :=
    allowed.admitted (fun seen generator request interpret allowed =>
      ⟨allowed.1, fun _ => trivial, allowed.2, fun _ _ => trivial, fun _ _ => trivial⟩) world
  obtain ⟨later, -⟩ := Discipline.visits holds.refl fits ends visits
  exact later.code block instruction member

/-! ## What is called -/

/-- **A routine stands for a function in a library** if it is there, and has the name of the function's
routine. -/
structure Function.StandsIn (place : LibraryId) (reference : FunctionRef) (before : World)
    (symbol : SymbolRef) (after : World) : Prop where
  /-- The routine is of the library. -/
  owner : symbol.owner = place
  /-- It is there. -/
  there : after.HasRoutine place symbol.place
  /-- It is the function's routine or has its name. -/
  named : symbol = before.functionSymbol reference ∨
    ∃ name named, Build.nameOf (before.symbolName (before.functionSymbol reference)) before =
        .ok name named ∧
      (place < named.libraries.length → Library.symbolKey after symbol = name.key)

/-- **What is called is declared**: the routine that a function is called by stands for the function in
the library that calls it. -/
theorem Function.callee_standsIn {place : LibraryId} {reference : FunctionRef}
    {world after : World} {symbol : SymbolRef}
    (stands : (world.routine? (world.functionSymbol reference)).isSome)
    (run : callee place reference world = .ok symbol after) :
    StandsIn place reference world symbol after := by
  obtain ⟨_, _, looked, run⟩ := bind_eq_ok.mp run
  obtain ⟨rfl, rfl⟩ := get_eq_ok.mp looked
  dsimp only at run
  split at run
  next own =>
    obtain ⟨rfl, rfl⟩ := pure_eq_ok.mp run
    exact ⟨own, .inr (own ▸ stands), .inl rfl⟩
  next =>
    obtain ⟨name, named, naming, ensured⟩ := bind_eq_ok.mp run
    obtain ⟨owner, there⟩ := Build.ensureRoutine_there ensured
    refine ⟨owner, there, .inr ⟨name, named, naming, fun inside => Library.symbolKey_eq ?_⟩⟩
    exact owner ▸ (Build.ensureRoutine_gains [] ensured inside).2.1

/-- **A call of a function** calls a routine that stands for the function in the library that
calls. -/
theorem Generator.callFunction_standsIn {place : GeneratorId} {function : FunctionRef}
    {arguments : List Value} {world after : World} {result : Operand} {block : BlockRef}
    (here : (world.generator place).block = .operand (.block block))
    (inside : block.place < world.blockCount block.routine)
    (stands : (world.routine? (world.functionSymbol function)).isSome)
    (run : callFunction place function arguments world = .ok result after) :
    ∃ before called symbol operands, SameCode world before ∧
      Function.StandsIn (world.generator place).function.owner function before symbol called ∧
        ∃ made ∈ after.row block,
          made.operation = .call (called.routineOperand symbol) operands := by
  obtain ⟨_, _, looked, run⟩ := bind_eq_ok.mp run
  obtain ⟨rfl, rfl⟩ := get_eq_ok.mp looked
  dsimp only at run
  split at run
  · obtain ⟨_, _, _, run⟩ := bind_eq_ok.mp run
    obtain ⟨_, _, _, run⟩ := bind_eq_ok.mp run
    obtain ⟨_, _, thrown, _⟩ := bind_eq_ok.mp run
    exact (throw_ne_ok thrown).elim
  obtain ⟨operands, coerced, coercing, run⟩ := bind_eq_ok.mp run
  have same : SameCode world coerced := (leads_coerceArguments place _ arguments).of_ok coercing
  obtain ⟨position, _, positioned, run⟩ := bind_eq_ok.mp run
  obtain ⟨_, _, looked, positioned⟩ := bind_eq_ok.mp positioned
  obtain ⟨rfl, rfl⟩ := get_eq_ok.mp looked
  rw [same.generator, here] at positioned
  obtain ⟨rfl, rfl⟩ := pure_eq_ok.mp positioned
  obtain ⟨library, _, looked, run⟩ := bind_eq_ok.mp run
  obtain ⟨_, _, looking, looked⟩ := bind_eq_ok.mp looked
  obtain ⟨rfl, rfl⟩ := get_eq_ok.mp looking
  obtain ⟨rfl, rfl⟩ := pure_eq_ok.mp looked
  obtain ⟨symbol, called, calling, run⟩ := bind_eq_ok.mp run
  obtain ⟨_, _, looked, emitting⟩ := bind_eq_ok.mp run
  obtain ⟨rfl, rfl⟩ := get_eq_ok.mp looked
  obtain ⟨made, does, -, -, -, changes⟩ := Build.emit_ok emitting
  rw [same.generator] at calling
  have further : SameCode _ called := (Function.leads_callee _ function).of_ok calling
  have standsThen := same.isSome stands
  rw [← same.functionSymbol] at standsThen
  refine ⟨_, called, symbol, operands, same, Function.callee_standsIn standsThen calling, made, ?_,
    does⟩
  rw [changes.row, if_pos ⟨rfl, by rw [further.blockCount, same.blockCount]; exact inside⟩]
  exact List.mem_append_right _ (List.mem_singleton.mpr rfl)

/-! ## What globals start with -/

namespace Library

variable {place : LibraryId} {name : Name} {world after : World} {entry : GlobalEntry}

/-- What the global of an entry starts with cites what a value cites, nothing more and nothing
less. -/
def StartsWith (place : LibraryId) (after : World) (entry : GlobalEntry) (world : World)
    (value : Value) : Prop :=
  after.HasGlobal place entry.symbol ∧
    ∀ global, after.global? ⟨place, entry.symbol⟩ = some global →
      ∃ initial, global.initial = some initial ∧
        ∀ symbol, initial.Cites symbol ↔ value.Cites world symbol

/-- A global that is defined starts with what its value cites. -/
theorem definedGlobal_startsWith {value : Value}
    (run : definedGlobal place name value world = .ok entry after) :
    StartsWith place after entry world value := by
  obtain ⟨initial, _, coercing, run⟩ := bind_eq_ok.mp run
  obtain ⟨_, _, looked, run⟩ := bind_eq_ok.mp run
  obtain ⟨rfl, rfl⟩ := get_eq_ok.mp looked
  obtain ⟨named, _, _, run⟩ := bind_eq_ok.mp run
  obtain ⟨symbolName, _, _, run⟩ := bind_eq_ok.mp run
  obtain ⟨symbol, declared, ensuring, run⟩ := bind_eq_ok.mp run
  obtain ⟨_, _, changing, run⟩ := bind_eq_ok.mp run
  obtain rfl := modify_eq_ok.mp changing
  obtain ⟨rfl, rfl⟩ := pure_eq_ok.mp run
  obtain ⟨rfl, there⟩ := Build.ensureGlobal_there ensuring
  refine ⟨there.changeGlobal _ _, fun global known => ⟨initial, ?_, fun symbol => ?_⟩⟩
  · rw [World.global?_changeGlobal, if_pos rfl] at known
    obtain ⟨_, _, rfl⟩ := Option.map_eq_some_iff.mp known
    rfl
  · exact Coercion.coerce_cites coercing

/-- A global that is declared with a value starts with what the value cites. -/
theorem declareGlobal_startsWith {name value : Value} (isValue : isTypeLike value = false)
    (run : declareGlobal place name value world = .ok entry after) :
    StartsWith place after entry world value := by
  obtain ⟨name, named, naming, run⟩ := bind_eq_ok.mp run
  obtain ⟨_, _, looked, run⟩ := bind_eq_ok.mp run
  obtain ⟨rfl, rfl⟩ := get_eq_ok.mp looked
  obtain ⟨_, free, checking, run⟩ := bind_eq_ok.mp run
  rw [isValue, if_neg Bool.false_ne_true] at run
  obtain ⟨entry, defined, defining, run⟩ := bind_eq_ok.mp run
  obtain ⟨_, _, entering, run⟩ := bind_eq_ok.mp run
  obtain rfl := modify_eq_ok.mp entering
  obtain ⟨rfl, rfl⟩ := pure_eq_ok.mp run
  have same : SameCode world free :=
    IsEffect.trans ((Build.leads_nameOf _).of_ok naming)
      ((leads_requireFree place "global" name _).of_ok checking)
  obtain ⟨there, starts⟩ := definedGlobal_startsWith defining
  -- Entering the global changes no module.
  have global?_eq (symbol : SymbolRef) : (defined.changeLibrary place fun library =>
      { library with globals := library.globals.enter name.key entry }).global? symbol =
        defined.global? symbol := by
    rw [World.global?, World.global?, World.library_changeLibrary]
    split
    next same => rw [same.1]
    next => rfl
  refine ⟨?_, fun global known => ?_⟩
  · rw [World.HasGlobal, World.length_changeLibrary, global?_eq]
    exact there
  · rw [global?_eq] at known
    obtain ⟨initial, holds, cites⟩ := starts global known
    exact ⟨initial, holds, fun symbol => (cites symbol).trans (Value.cites_sameCode same _)⟩

/-- A constant starts with what its value cites. -/
theorem declareConstant_startsWith {name value : Value} (isValue : isTypeLike value = false)
    (run : declareConstant place name value world = .ok entry after) :
    StartsWith place after entry world value := by
  obtain ⟨entry, declared, declaring, run⟩ := bind_eq_ok.mp run
  obtain ⟨_, _, fixing, run⟩ := bind_eq_ok.mp run
  obtain rfl := modify_eq_ok.mp fixing
  obtain ⟨rfl, rfl⟩ := pure_eq_ok.mp run
  obtain ⟨there, starts⟩ := declareGlobal_startsWith isValue declaring
  refine ⟨there.changeGlobal _ _, fun global known => ?_⟩
  rw [World.global?_changeGlobal, if_pos rfl] at known
  obtain ⟨before, found, rfl⟩ := Option.map_eq_some_iff.mp known
  exact starts before found

end Library

/-! ## Libraries -/

/-- **What is done for a library cites its own routines.** If the slots of its functions do,

* all instructions that clients of its functions add do as well, whatever functions they call, if the
  values that they use do;
* a function of any library that is called is called by a routine that stands for it in the library;
* what globals and constants start with does, if the value that they are declared with does. -/
theorem World.SlotsStayIn.encloses {world : World} {place : LibraryId}
    (slots : world.SlotsStayIn place) :
    (∀ (client : Client) (middle : World),
      (client.Forall fun generator request =>
        world.BuildsIn place generator ∧ ∀ value ∈ request.operands, value.StaysIn place) →
      (client.Ends fun value => value.StaysIn place) → client.Visits world middle →
        ∀ block, ∀ instruction ∈ middle.row block,
          instruction ∈ world.row block ∨ instruction.operation.StaysIn place) ∧
    (∀ generator function arguments result after block,
      (world.generator generator).function.owner = place →
      (world.generator generator).block = .operand (.block block) →
      block.place < world.blockCount block.routine →
      (world.routine? (world.functionSymbol function)).isSome →
      Generator.callFunction generator function arguments world = .ok result after →
        ∃ before called symbol operands, SameCode world before ∧
          Function.StandsIn place function before symbol called ∧
            ∃ made ∈ after.row block,
              made.operation = .call (called.routineOperand symbol) operands) ∧
    ∀ name value entry after, Library.isTypeLike value = false → value.StaysIn place →
      (Library.declareGlobal place name value world = .ok entry after ∨
        Library.declareConstant place name value world = .ok entry after) →
        after.HasGlobal place entry.symbol ∧
          ∀ global, after.global? ⟨place, entry.symbol⟩ = some global →
            ∃ initial, global.initial = some initial ∧ initial.StaysIn place := by
  refine ⟨fun client middle allowed ends visits block instruction member => ?_, ?_, ?_⟩
  · exact slots.visits allowed ends visits member
  · rintro generator function arguments result after block rfl here inside stands run
    exact Generator.callFunction_standsIn here inside stands run
  · intro name value entry after isValue stays run
    have starts : Library.StartsWith place after entry world value := by
      rcases run with run | run
      · exact Library.declareGlobal_startsWith isValue run
      · exact Library.declareConstant_startsWith isValue run
    refine ⟨starts.1, fun global known => ?_⟩
    obtain ⟨initial, holds, cites⟩ := starts.2 global known
    exact ⟨initial, holds, fun symbol cited => stays world symbol ((cites symbol).mp cited)⟩

namespace World

/-- A world with a library that has a function `f`, and a second one whose function `g` has a generator
at its entry. -/
def neighbours : World :=
  (do
    let first ← Library.create (.text "b") (.text "public") (.text "smart") .none (.truth false) none
    let _ ← Library.define first (.text "f") (.tuple []) (.type (.int 32)) none
    let second ← Library.create (.text "a") (.text "public") (.text "smart") .none (.truth false) none
    let function ← Library.define second (.text "g") (.tuple []) (.type .void) none
    Generator.atEntry function : Build GeneratorId).after .empty

/-- The slot that `g` is stored in. -/
def storage : Operand :=
  .result ⟨1, 0⟩ ".3" (.pointer (.pointer (.function .void [] false))) .alloca

/-- A client of `g` that calls `f`, and then stores `g` itself in a new slot. -/
def callsNeighbour : Client :=
  .perform 0 (.operation "call" [.function ⟨0, 0⟩] []) (fun _ _ => .done (.ok .none)) fun _ =>
    .perform 0 (.operation "alloca" [.type (.pointer (.function .void [] false))] [])
        (fun _ _ => .done (.ok .none)) fun _ =>
      .perform 0 (.operation "store" [.function ⟨1, 0⟩, .operand storage] [])
          (fun _ _ => .done (.ok .none)) fun _ => .done (.ok .none)

/-- The functions of the second library have no slots yet. -/
theorem slotsStayIn_neighbours : neighbours.SlotsStayIn 1 := by
  have none_slots : ∀ entry ∈ (neighbours.library 1).functions, entry.2.slot.isNone := by
    decide +kernel
  rintro ⟨owner, index⟩ slot rfl known
  rw [function] at known
  dsimp only at known
  rcases listed : (neighbours.library 1).functions[index]? with _ | entry
  · rw [listed] at known
    cases known
  · rw [listed] at known
    have missing := none_slots entry (List.mem_of_getElem? listed)
    rw [Option.map_some, Option.getD_some] at known
    rw [known] at missing
    cases missing

/-- Calling the function of the other library, storing the own one and declaring a table of it cites only
routines of the second library. -/
theorem SlotsStayIn.encloses_neighbours :
    neighbours.SlotsStayIn 1 ∧
      (neighbours.row ⟨⟨1, 0⟩, 0⟩ = [] ∧
        (callsNeighbour.run.after neighbours).row ⟨⟨1, 0⟩, 0⟩ ≠ [] ∧
          ∀ instruction ∈ (callsNeighbour.run.after neighbours).row ⟨⟨1, 0⟩, 0⟩,
            instruction.operation.StaysIn 1) ∧
      (∃ result after, Generator.callFunction 0 ⟨0, 0⟩ [] neighbours = .ok result after ∧
        ∃ before called symbol, Function.StandsIn 1 ⟨0, 0⟩ before symbol called) ∧
      ∃ entry after,
        Library.declareGlobal 1 (.text "table") (.list [.function ⟨1, 0⟩]) neighbours =
            .ok entry after ∧
          after.HasGlobal 1 entry.symbol := by
  obtain ⟨clients, calls, globals⟩ := slotsStayIn_neighbours.encloses
  have own : Value.StaysIn 1 (.function ⟨1, 0⟩) := Value.staysIn_function.mpr rfl
  have allowed : callsNeighbour.Forall fun generator request =>
      neighbours.BuildsIn 1 generator ∧ ∀ value ∈ request.operands, value.StaysIn 1 := by
    have builds : neighbours.BuildsIn 1 0 := fun _ => rfl
    refine ⟨⟨builds, fun _ member => (List.not_mem_nil member).elim⟩, fun _ _ => trivial, fun _ =>
      ⟨⟨builds, fun value member => ?_⟩, fun _ _ => trivial, fun _ =>
        ⟨⟨builds, fun value member => ?_⟩, fun _ _ => trivial, fun _ => trivial⟩⟩⟩
    · obtain rfl := List.mem_singleton.mp member
      exact Value.staysIn_of_isAtom rfl 1
    · rcases List.mem_cons.mp member with rfl | member
      · exact own
      · obtain rfl := List.mem_singleton.mp member
        exact fun world symbol cites =>
          (Operand.not_cites_of_isAtom rfl (Value.cites_operand.mp cites)).elim
  have nothing : Client.Ends (fun value => value.StaysIn 1) (.done (.ok .none)) := by
    intro value given
    cases given
    exact Value.staysIn_of_isAtom rfl 1
  have ends : callsNeighbour.Ends fun value => value.StaysIn 1 :=
    ⟨fun _ _ => nothing, fun _ => ⟨fun _ _ => nothing, fun _ =>
      ⟨fun _ _ => nothing, fun _ => nothing⟩⟩⟩
  have calling : (Generator.callFunction 0 ⟨0, 0⟩ []).succeeds neighbours = true := by
    decide +kernel
  have declaring : (Library.declareGlobal 1 (.text "table") (.list [.function ⟨1, 0⟩])).succeeds
      neighbours = true := by decide +kernel
  obtain ⟨result, called⟩ := Build.ok_of_succeeds calling
  obtain ⟨entry, declared⟩ := Build.ok_of_succeeds declaring
  have empty : neighbours.row ⟨⟨1, 0⟩, 0⟩ = [] := rfl
  refine ⟨slotsStayIn_neighbours, ⟨empty, ?_, ?_⟩, ⟨result, _, called, ?_⟩, entry, _, declared, ?_⟩
  · intro unchanged
    have count : ((callsNeighbour.run.after neighbours).row ⟨⟨1, 0⟩, 0⟩).length = 3 := by
      decide +kernel
    rw [unchanged] at count
    cases count
  · intro instruction member
    have added := clients callsNeighbour _ allowed ends (callsNeighbour.visits_after neighbours)
      ⟨⟨1, 0⟩, 0⟩ instruction member
    rw [empty] at added
    exact added.resolve_left List.not_mem_nil
  · obtain ⟨before, known, symbol, _, _, stands, _⟩ := calls 0 ⟨0, 0⟩ [] result _ ⟨⟨1, 0⟩, 0⟩ rfl rfl
      (by decide +kernel) (by decide +kernel) called
    exact ⟨before, known, symbol, stands⟩
  · refine (globals _ _ entry _ rfl ?_ (.inl declared)).1
    intro world symbol cites
    obtain ⟨item, member, cites⟩ := Value.cites_list.mp cites
    obtain rfl := List.mem_singleton.mp member
    exact own world symbol cites

/-- The world in which the generator of `g` has stored `f`. -/
def borrowed : World :=
  (do
    let slot ← Generator.allocate 0 (.type (.pointer (.function (.int 32) [] false))) .none
    Generator.store 0 (.function ⟨0, 0⟩) slot : Build Value).after neighbours

/-- **A function of another library that is stored stays where it is declared**: the code of `g` cites a
routine of the other library, and its own library has none of that name. -/
theorem borrowed_cites :
    (∃ instruction ∈ borrowed.row ⟨⟨1, 0⟩, 0⟩,
      ∃ operand ∈ instruction.operation.uses, operand.Cites ⟨0, 0⟩) ∧
      Library.symbolKey borrowed ⟨0, 0⟩ = .text "b_f" ∧
        ∀ place, (borrowed.library 1).module.key? place ≠ some (.text "b_f") := by
  have stored : (borrowed.row ⟨⟨1, 0⟩, 0⟩).map Instruction.operation =
      [.alloca (.pointer (.function (.int 32) [] false)) none,
        .store (.routine ⟨0, 0⟩ (.function (.int 32) [] false))
          (.result ⟨1, 0⟩ ".2" (.pointer (.pointer (.function (.int 32) [] false))) .alloca)] :=
    rfl
  have keys : ∀ key ∈ (borrowed.library 1).module.symbols.map Prod.fst, key ≠ .text "b_f" := by
    decide +kernel
  refine ⟨?_, by decide +kernel, fun place known => ?_⟩
  · obtain ⟨instruction, member, does⟩ := List.mem_map.mp (stored ▸ List.mem_cons_of_mem _
      List.mem_cons_self)
    exact ⟨instruction, member, _, by rw [does]; exact List.mem_cons_self, .routine _⟩
  · obtain ⟨entry, listed, key⟩ := Option.map_eq_some_iff.mp known
    exact keys _ (List.mem_map_of_mem (List.mem_of_getElem? listed)) key

end World

end StructuredIR
