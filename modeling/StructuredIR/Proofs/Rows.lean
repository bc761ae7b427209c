import StructuredIR.Proofs.Effects

/-! # What worlds hold

Views of a world, each of which is what one kind of change changes:

* **`World.routine?`**, and through it **`World.row`**, the instructions of a block,
  **`World.blockCount`** and **`World.order`**, the blocks of a routine and their order;
* **`World.function?`**, what is recorded of a function;
* **`World.generator?`**, what is known of a generator.

Beside each change of a world stand the lemmas that tell its effect on the views. -/

namespace StructuredIR

/-- The block that a value is. -/
theorem Value.eq_of_block?_eq_some {value : Value} {place : BlockRef}
    (known : value.block? = some place) : value = .operand (.block place) := by
  unfold block? at known
  split at known
  · cases known
    rfl
  · cases known

/-- The labels of the blocks of a routine. -/
def Routine.labels (routine : Routine) : List Value :=
  routine.blocks.map Block.label

/-- A new block comes behind the others. -/
theorem Routine.labels_appendBlock (routine : Routine) (base : Value) (key : Key) (text : String) :
    routine.labels <+: (routine.appendBlock base key text).labels := by
  simp [labels, appendBlock]

/-- A block that keeps its label changes no labels. -/
theorem Routine.labels_changeBlock (routine : Routine) (place : Nat) {update : Block → Block}
    (label : ∀ block, (update block).label = block.label) :
    (routine.changeBlock place update).labels = routine.labels := by
  refine List.ext_getElem? fun index => ?_
  simp only [labels, changeBlock, List.getElem?_map, List.getElem?_modify]
  split
  · cases routine.blocks[index]? <;> simp [label]
  · cases routine.blocks[index]? <;> rfl

namespace Module

/-- A symbol keeps its place and name when what it is changes. -/
theorem symbol?_change (module : Module) (place other : Nat) (update : Content → Content) :
    (module.change place update).symbol? other =
      if other = place then
        (module.symbol? place).map fun symbol => { symbol with content := update symbol.content }
      else module.symbol? other := by
  simp only [symbol?, change, List.getElem?_modify]
  by_cases same : other = place
  · subst same
    simp [Function.comp_def]
  · have different : ¬ place = other := fun equal => same equal.symm
    simp [same, different]

/-- The routine of a symbol. -/
theorem routine?_eq (module : Module) (place : Nat) :
    module.routine? place =
      (module.symbol? place).bind fun symbol =>
        match symbol.content with
        | .routine routine => some routine
        | .global _ => none := by
  unfold routine?
  rcases module.symbol? place with _ | ⟨name, content⟩
  · rfl
  · cases content <;> rfl

/-- Changing a routine changes that routine and no other one. -/
theorem routine?_changeRoutine (module : Module) (place other : Nat)
    (update : Routine → Routine) :
    (module.changeRoutine place update).routine? other =
      if other = place then (module.routine? place).map update else module.routine? other := by
  simp only [routine?_eq, changeRoutine, symbol?_change]
  split
  · rcases module.symbol? place with _ | ⟨name, content⟩
    · rfl
    · cases content <;> rfl
  · rfl

/-- Changing a global changes no routine. -/
theorem routine?_changeGlobal (module : Module) (place other : Nat) (update : Global → Global) :
    (module.changeGlobal place update).routine? other = module.routine? other := by
  simp only [routine?_eq, changeGlobal, symbol?_change]
  split
  next same =>
    subst same
    rcases module.symbol? other with _ | ⟨name, content⟩
    · rfl
    · cases content <;> rfl
  next => rfl

end Module

namespace World

/-! ## Views -/

/-- What is recorded of a function, if it is there. -/
def function? (world : World) (reference : FunctionRef) : Option Function :=
  ((world.library reference.owner).functions[reference.place]?).map Prod.snd

/-- What is known of a generator, if it is there. -/
def generator? (world : World) (place : GeneratorId) : Option Generator :=
  world.generators[place]?

/-- The instructions of a block; one that does not exist has none. -/
def row (world : World) (place : BlockRef) : List Instruction :=
  (world.block place).instructions

/-- How many blocks a routine has, in and out of order. -/
def blockCount (world : World) (symbol : SymbolRef) : Nat :=
  (world.routine symbol).blocks.length

/-- The places of the blocks of a routine that are in order. -/
def order (world : World) (symbol : SymbolRef) : List Nat :=
  (world.routine symbol).order

theorem function_eq (world : World) (reference : FunctionRef) :
    world.function reference = (world.function? reference).getD default := rfl

theorem generator_eq (world : World) (place : GeneratorId) :
    world.generator place = (world.generator? place).getD default := rfl

/-! ## Libraries -/

variable (world : World)

/-- A library that does not exist is an empty one. -/
theorem library_of_length_le {place : LibraryId} (beyond : world.libraries.length ≤ place) :
    world.library place = default := by
  rw [library, List.getElem?_eq_none beyond]
  rfl

/-- Changing a library changes that library, if it is there, and no other one. -/
theorem library_changeLibrary (place other : LibraryId) (update : Library → Library) :
    (world.changeLibrary place update).library other =
      if other = place ∧ place < world.libraries.length then update (world.library place)
      else world.library other := by
  simp only [library, changeLibrary, List.getElem?_modify]
  by_cases same : place = other
  · subst same
    by_cases inside : place < world.libraries.length <;> simp [inside]
  · have different : ¬ other = place := fun equal => same equal.symm
    simp [same, different]

/-! ## Routines -/

/-- Changing a module changes its routines, if the library is there. -/
theorem routine?_changeModule (place : LibraryId) (update : Module → Module) (other : SymbolRef) :
    (world.changeModule place update).routine? other =
      if other.owner = place ∧ place < world.libraries.length then
        (update (world.library place).module).routine? other.place
      else world.routine? other := by
  simp only [routine?, changeModule, library_changeLibrary]
  split <;> rfl

/-- Changing a routine changes that routine, if it is there, and no other one. -/
@[grind =]
theorem routine?_changeRoutine (symbol other : SymbolRef) (update : Routine → Routine) :
    (world.changeRoutine symbol update).routine? other =
      if other = symbol then (world.routine? symbol).map update else world.routine? other := by
  obtain ⟨owner, place⟩ := symbol
  obtain ⟨otherOwner, otherPlace⟩ := other
  simp only [changeRoutine, routine?_changeModule, Module.routine?_changeRoutine,
    SymbolRef.mk.injEq]
  by_cases inside : owner < world.libraries.length
  · by_cases same : otherOwner = owner
    · subst same
      simp only [inside, and_self, true_and, if_true]
      rfl
    · simp [same]
  · have missing : world.routine? ⟨owner, place⟩ = none := by
      rw [routine?, library_of_length_le _ (Nat.le_of_not_lt inside)]
      rfl
    simp only [inside, and_false, if_false, missing, Option.map_none]
    split
    next same => rw [same.1, same.2, missing]
    next => rfl

/-- Changing a global changes no routine. -/
@[simp, grind =]
theorem routine?_changeGlobal (symbol other : SymbolRef) (update : Global → Global) :
    (world.changeGlobal symbol update).routine? other = world.routine? other := by
  rw [changeGlobal, routine?_changeModule]
  split
  next same => rw [Module.routine?_changeGlobal, routine?, same.1]
  next => rfl

/-- Changing a function changes no routine. -/
@[simp, grind =]
theorem routine?_changeFunction (reference : FunctionRef) (update : Function → Function)
    (other : SymbolRef) :
    (world.changeFunction reference update).routine? other = world.routine? other := by
  simp only [routine?, changeFunction, library_changeLibrary]
  split
  next same => rw [same.1]
  next => rfl

/-- Changing a generator changes no routine. -/
@[simp, grind =]
theorem routine?_changeGenerator (place : GeneratorId) (update : Generator → Generator)
    (other : SymbolRef) :
    (world.changeGenerator place update).routine? other = world.routine? other := rfl

/-! ## Functions -/

/-- Changing a module changes nothing that is recorded of functions. -/
@[simp, grind =]
theorem function?_changeModule (place : LibraryId) (update : Module → Module)
    (reference : FunctionRef) :
    (world.changeModule place update).function? reference = world.function? reference := by
  simp only [function?, changeModule, library_changeLibrary]
  split
  next same => rw [same.1]
  next => rfl

@[simp, grind =]
theorem function?_changeRoutine (symbol : SymbolRef) (update : Routine → Routine)
    (reference : FunctionRef) :
    (world.changeRoutine symbol update).function? reference = world.function? reference :=
  world.function?_changeModule _ _ reference

@[simp, grind =]
theorem function?_changeBlock (place : BlockRef) (update : Block → Block)
    (reference : FunctionRef) :
    (world.changeBlock place update).function? reference = world.function? reference :=
  world.function?_changeModule _ _ reference

@[simp, grind =]
theorem function?_changeGlobal (symbol : SymbolRef) (update : Global → Global)
    (reference : FunctionRef) :
    (world.changeGlobal symbol update).function? reference = world.function? reference :=
  world.function?_changeModule _ _ reference

@[simp, grind =]
theorem function?_changeGenerator (place : GeneratorId) (update : Generator → Generator)
    (reference : FunctionRef) :
    (world.changeGenerator place update).function? reference = world.function? reference := rfl

/-- Changing a function changes what is recorded of it, if it is there, and of no other one. -/
@[grind =]
theorem function?_changeFunction (reference other : FunctionRef) (update : Function → Function) :
    (world.changeFunction reference update).function? other =
      if other = reference then (world.function? reference).map update
      else world.function? other := by
  obtain ⟨owner, place⟩ := reference
  obtain ⟨otherOwner, otherPlace⟩ := other
  simp only [function?, changeFunction, library_changeLibrary, FunctionRef.mk.injEq]
  by_cases inside : owner < world.libraries.length
  · by_cases same : otherOwner = owner
    · subst same
      simp only [inside, and_self, true_and, if_true, List.getElem?_modify]
      by_cases place_eq : place = otherPlace
      · subst place_eq
        simp [Function.comp_def]
      · have different : ¬ otherPlace = place := fun equal => place_eq equal.symm
        simp [place_eq, different]
    · simp [same]
  · have missing : (world.library owner).functions = [] := by
      rw [library_of_length_le _ (Nat.le_of_not_lt inside)]
      rfl
    simp only [inside, and_false, if_false]
    split
    next same => simp [same.1, missing]
    next => rfl

/-- A slot behind a change of a function is one that there was, or one that the function was given. -/
theorem slot_changeFunction {reference other : FunctionRef} {update : Function → Function}
    {slot : Operand}
    (known : ((world.changeFunction reference update).function other).slot = some slot) :
    (world.function other).slot = some slot ∨
      other = reference ∧ (update (world.function other)).slot = some slot := by
  rw [function_eq, function?_changeFunction] at known
  split at known
  next same =>
    subst same
    rcases found : world.function? other with _ | function
    · rw [found] at known
      cases known
    · rw [found] at known
      exact .inr ⟨rfl, by rwa [function_eq, found]⟩
  next =>
    rw [← function_eq] at known
    exact .inl known

/-- A function stands for the same routine after a change that keeps its place. -/
theorem functionSymbol_changeFunction (reference other : FunctionRef)
    {update : Function → Function} (symbol : ∀ function, (update function).symbol = function.symbol) :
    (world.changeFunction reference update).functionSymbol other = world.functionSymbol other := by
  have same : ((world.changeFunction reference update).function other).symbol =
      (world.function other).symbol := by
    rw [function_eq, function?_changeFunction, function_eq]
    split
    next equal =>
      rw [equal]
      cases world.function? reference with
      | none => rfl
      | some function => exact symbol function
    next => rfl
  rw [functionSymbol, functionSymbol, same]

/-! ## Generators -/

/-- Changing a generator changes that generator, if it is there, and no other one. -/
@[grind =]
theorem generator?_changeGenerator (place other : GeneratorId) (update : Generator → Generator) :
    (world.changeGenerator place update).generator? other =
      if other = place then (world.generator? place).map update else world.generator? other := by
  simp only [generator?, changeGenerator, List.getElem?_modify]
  by_cases same : place = other
  · simp [same]
  · have different : ¬ other = place := fun equal => same equal.symm
    simp [same, different]

/-- Changing a generator keeps how many there are. -/
@[simp]
theorem length_changeGenerator (place : GeneratorId) (update : Generator → Generator) :
    (world.changeGenerator place update).generators.length = world.generators.length :=
  List.length_modify ..

/-- A generator that is there, after a change of one. -/
theorem generator_changeGenerator (place other : GeneratorId) (update : Generator → Generator) :
    (world.changeGenerator place update).generator other =
      if other = place ∧ place < world.generators.length then update (world.generator place)
      else world.generator other := by
  rw [generator_eq, generator?_changeGenerator, generator_eq, generator_eq]
  by_cases same : other = place
  · subst same
    by_cases inside : other < world.generators.length <;> simp [inside, generator?]
  · simp [same]

/-- A generator after another one has come up. -/
theorem generator_append (generator : Generator) (other : GeneratorId) :
    ({ world with generators := world.generators ++ [generator] } : World).generator other =
      if other = world.generators.length then generator else world.generator other := by
  simp only [World.generator, List.getElem?_append]
  split
  next inside => rw [if_neg (Nat.ne_of_lt inside)]
  next beyond =>
    split
    next same => simp [same]
    next different =>
      have further : world.generators.length < other :=
        Nat.lt_of_le_of_ne (Nat.le_of_not_lt beyond) fun equal => different equal.symm
      have shift : other - world.generators.length ≠ 0 := Nat.sub_ne_zero_of_lt further
      simp [List.getElem?_eq_none (Nat.le_of_lt further), shift]

/-! ## Rows -/

/-- A routine that does not exist has no blocks. -/
theorem default_blocks : (default : Routine).blocks = [] := rfl

/-- Blocks of a routine that is the same in two worlds have the same instructions. -/
theorem row_congr {first second : World} {place : BlockRef}
    (same : first.routine? place.routine = second.routine? place.routine) :
    first.row place = second.row place := by
  simp only [row, block, routine, same]

/-- A block that is not there has no instructions. -/
theorem row_of_blockCount_le {place : BlockRef}
    (beyond : world.blockCount place.routine ≤ place.place) : world.row place = [] := by
  rw [row, block, List.getElem?_eq_none beyond]
  rfl

/-- Changing what is recorded of a function changes no instructions. -/
@[simp]
theorem row_changeFunction (reference : FunctionRef) (update : Function → Function)
    (place : BlockRef) : (world.changeFunction reference update).row place = world.row place :=
  row_congr (world.routine?_changeFunction reference update place.routine)

@[simp]
theorem blockCount_changeFunction (reference : FunctionRef) (update : Function → Function)
    (symbol : SymbolRef) :
    (world.changeFunction reference update).blockCount symbol = world.blockCount symbol := by
  rw [blockCount, routine, routine?_changeFunction]
  rfl

@[simp]
theorem order_changeFunction (reference : FunctionRef) (update : Function → Function)
    (symbol : SymbolRef) :
    (world.changeFunction reference update).order symbol = world.order symbol := by
  rw [order, routine, routine?_changeFunction]
  rfl

/-- Changing a block changes its instructions, if it is there, and those of no other one. -/
@[grind =]
theorem row_changeBlock (place other : BlockRef) (update : Block → Block) :
    (world.changeBlock place update).row other =
      if other = place ∧ place.place < world.blockCount place.routine then
        (update (world.block place)).instructions
      else world.row other := by
  obtain ⟨symbol, index⟩ := place
  obtain ⟨otherSymbol, otherIndex⟩ := other
  simp only [row, block, routine, changeBlock, routine?_changeRoutine, blockCount,
    BlockRef.mk.injEq]
  by_cases same : otherSymbol = symbol
  · subst same
    simp only [if_true, true_and]
    rcases found : world.routine? otherSymbol with _ | routine
    · simp [default_blocks]
    · simp only [Option.map_some, Option.getD_some, Routine.changeBlock, List.getElem?_modify]
      by_cases index_eq : index = otherIndex
      · subst index_eq
        by_cases inside : index < routine.blocks.length <;> simp [inside]
      · have different : ¬ otherIndex = index := fun equal => index_eq equal.symm
        simp [index_eq, different]
  · simp [same]

/-- Changing a block keeps how many there are. -/
@[simp, grind =]
theorem blockCount_changeBlock (place : BlockRef) (update : Block → Block) (symbol : SymbolRef) :
    (world.changeBlock place update).blockCount symbol = world.blockCount symbol := by
  simp only [blockCount, routine, changeBlock, routine?_changeRoutine]
  split
  next same =>
    subst same
    cases world.routine? place.routine <;> simp [Routine.changeBlock]
  next => rfl

/-- Changing a block keeps the order. -/
@[simp, grind =]
theorem order_changeBlock (place : BlockRef) (update : Block → Block) (symbol : SymbolRef) :
    (world.changeBlock place update).order symbol = world.order symbol := by
  simp only [order, routine, changeBlock, routine?_changeRoutine]
  split
  next same =>
    subst same
    cases world.routine? place.routine <;> rfl
  next => rfl

/-! ## Labels -/

/-- The label of a block that is there. -/
def label? (world : World) (place : BlockRef) : Option Value :=
  (world.routine place.routine).labels[place.place]?

/-- The label of a block is that of the block that is there. -/
theorem label_block (place : BlockRef) :
    (world.block place).label = (world.label? place).getD .none := by
  rw [label?, Routine.labels, List.getElem?_map, block]
  cases (world.routine place.routine).blocks[place.place]? <;> rfl

end World

end StructuredIR
