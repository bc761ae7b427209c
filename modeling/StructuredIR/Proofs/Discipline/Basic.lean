import StructuredIR.Proofs.Citations
import StructuredIR.Proofs.Clients
import StructuredIR.Proofs.Straight

/-! # Disciplines of generators

What all operations of generators keep, they keep for few reasons: instructions are added where a
generator is, generators are put at blocks, blocks are added and put in order, and symbols are
declared.

* **`Discipline`** says which generators are in use and for which functions they are, which blocks
  they may be at, which routines their instructions may cite and how these may end blocks, together
  with a course of worlds on which all these steps stay.
* **`Discipline.Runs`** says that a step stays on the course in every situation of a kind, and what
  holds of its result. From the steps of a discipline this is shown of one operation of generators
  after another. -/

namespace StructuredIR

open Build (Leads Follows bind_eq_ok get_eq_ok pure_eq_ok)

/-- **An operand that a value is coerced to** in a world, for some library. -/
def Coercion.Makes (world : World) (value : Value) (wanted : Option IRType) (operand : Operand) :
    Prop :=
  ∃ pool final, coerce pool value wanted world = .ok operand final

/-- The effect of staying on a course: where the course cannot be followed, everything is
permitted. -/
def Along (Course : World → World → Prop) (before after : World) : Prop :=
  Course before before → Course before after

instance (Course : World → World → Prop) [IsCourse Course] : IsEffect (Along Course) where
  refl _ := id
  trans first second valid :=
    have course := first valid
    IsCourse.trans course (second (IsCourse.arrives course))

/-- **Generators are assigned** to functions: those in use are for functions that are served, and all
that are still to come are in use. -/
structure World.Assigns (Owns : GeneratorId → Prop) (Serves : FunctionRef → Prop) (world : World) :
    Prop where
  /-- Generators that are still to come are in use. -/
  fresh (place : GeneratorId) : world.generators.length ≤ place → Owns place
  /-- The generators in use are for functions that are served. -/
  own (place : GeneratorId) : place < world.generators.length → Owns place →
    Serves (world.generator place).function

namespace World.Assigns

variable {Owns : GeneratorId → Prop} {Serves : FunctionRef → Prop} {world : World}

/-- Where generators are the same they are still assigned. -/
theorem of_generators {after : World} (assigns : world.Assigns Owns Serves)
    (generators : after.generators = world.generators) : after.Assigns Owns Serves where
  fresh place beyond := assigns.fresh place (generators ▸ beyond)
  own place inside owned := by
    rw [generator, generators]
    exact assigns.own place (generators ▸ inside) owned

/-- A generator may change that stays for its function. -/
theorem changeGenerator (assigns : world.Assigns Owns Serves) {place : GeneratorId}
    {update : Generator → Generator}
    (function : ∀ generator, (update generator).function = generator.function) :
    (world.changeGenerator place update).Assigns Owns Serves where
  fresh other beyond := assigns.fresh other (by rwa [length_changeGenerator] at beyond)
  own other inside owned := by
    rw [length_changeGenerator] at inside
    rw [generator_changeGenerator]
    split
    next same =>
      rw [function]
      exact same.1 ▸ assigns.own other inside owned
    next => exact assigns.own other inside owned

/-- A generator may come up for a function that is served. -/
theorem addGenerator (assigns : world.Assigns Owns Serves) {generator : Generator}
    (serves : Serves generator.function) :
    { world with generators := world.generators ++ [generator] }.Assigns Owns Serves where
  fresh other beyond := by
    refine assigns.fresh other (Nat.le_trans ?_ beyond)
    rw [List.length_append]
    exact Nat.le_add_right _ _
  own other inside owned := by
    rw [generator_append]
    split
    · exact serves
    next different =>
      refine assigns.own other (Nat.lt_of_le_of_ne (Nat.lt_succ_iff.mp ?_) different) owned
      rwa [List.length_append, List.length_singleton] at inside

end World.Assigns

/-- **A discipline of generators**: what they are for, where they may be and what they may use, and a
course that is kept by all steps that they consist of. -/
structure Discipline where
  /-- The worlds that come later than others. -/
  Course : World → World → Prop
  /-- The generators in use, those included that are still to come. -/
  Owns : GeneratorId → Prop
  /-- The functions that the generators are for. -/
  Serves : FunctionRef → Prop
  /-- The values that generators may be positioned at. -/
  Spot : World → Value → Prop
  /-- The routines that may be cited. -/
  Citable : SymbolRef → Prop
  /-- The operations that may be added. -/
  Permits : Operation → Prop
  /-- The values that may be branched on. -/
  Tests : Value → Prop
  /-- The values that may be returned in place, where it is done. -/
  Yields : World → Value → Prop
  /-- Worlds that come later form a course. -/
  isCourse : IsCourse Course
  /-- Generators stay there. -/
  generators {before after : World} : Course before after →
    before.generators.length ≤ after.generators.length
  /-- Where a generator may be positioned it may be later on. -/
  spot {before after : World} {value : Value} : Course before after → Spot before value →
    Spot after value
  /-- A new generator is in use. -/
  fresh {world : World} : Course world world → Owns world.generators.length
  /-- The generators in use are for the functions that are served. -/
  function {world : World} {place : GeneratorId} : Course world world → Owns place →
    place < world.generators.length → Serves (world.generator place).function
  /-- The generators in use are where they may be. -/
  position {world : World} {place : GeneratorId} : Course world world → Owns place →
    place < world.generators.length → Spot world (world.generator place).block
  /-- Generators may begin at the entry of a function. -/
  entry {world : World} {reference : FunctionRef} : Course world world → Serves reference →
    Spot world (Generator.entryValue (world.function reference))
  /-- The slot of a function may be used. -/
  slot {world : World} {reference : FunctionRef} {slot : Operand} {symbol : SymbolRef} :
    Course world world → Serves reference → (world.function reference).slot = some slot →
      slot.Cites symbol → Citable symbol
  /-- The routines of the library of a function may be cited. -/
  cite {reference : FunctionRef} {symbol : SymbolRef} : Serves reference →
    symbol.owner = reference.owner → Citable symbol
  /-- Texts may be written and pooled, and routines declared, in the library of a function. -/
  symbols {reference : FunctionRef} : Serves reference →
    AllowsSymbolsIn reference.owner (Along Course)
  /-- What ends no block may be added. -/
  straight {operation : Operation} : operation.isTerminator = false → Permits operation
  /-- Every block may be branched to. -/
  branch (target : Value) : Permits (.branch target)
  /-- What a value that may be branched on is coerced to may be branched on. -/
  branchIf {world : World} {value : Value} {condition : Operand} (whenTrue whenFalse : Value) :
    Tests value → Coercion.Makes world value (some Generator.conditionType) condition →
      Permits (.branchIf condition whenTrue whenFalse)
  /-- Functions that yield nothing return nothing. -/
  retVoid {world : World} {reference : FunctionRef} : Course world world → Serves reference →
    (world.routineOf reference).result = .void → Permits .retVoid
  /-- What a value that may be returned in place is coerced to may be returned. -/
  ret {world : World} {reference : FunctionRef} {value : Value} {operand : Operand} :
    Course world world → Serves reference → (world.routineOf reference).result ≠ .void →
      Yields world value →
        Coercion.Makes world value (some (world.routineOf reference).result) operand →
          Permits (.ret operand)
  /-- An instruction may be added where a generator may be. -/
  emit {world : World} {block : BlockRef} {operation : Operation} : Course world world →
    Spot world (.operand (.block block)) → Permits operation →
      (∀ operand ∈ operation.uses, ∀ symbol, operand.Cites symbol → Citable symbol) →
        Course world ((Build.emit block operation).after world)
  /-- A generator may change that stays for its function and where it may be. -/
  changeGenerator {world : World} {place : GeneratorId} {update : Generator → Generator} :
    Course world world → (∀ generator, (update generator).function = generator.function) →
      (place < world.generators.length → Spot world (update (world.generator place)).block) →
        Course world (world.changeGenerator place update)
  /-- A generator may come up. -/
  addGenerator {world : World} {generator : Generator} : Course world world →
    Serves generator.function → Spot world generator.block →
      Course world { world with generators := world.generators ++ [generator] }
  /-- A block may be added. -/
  appendNamed {world : World} {reference : FunctionRef} (base : String) : Course world world →
    Serves reference → Course world ((Function.appendNamed reference base).after world)
  /-- A generator may be at a new block. -/
  spotNamed {world final : World} {reference : FunctionRef} {base : String} {block : BlockRef} :
    Course world world → Serves reference →
      Function.appendNamed reference base world = .ok block final →
        Spot final (.operand (.block block))
  /-- A block may be added whose name is a value. -/
  appendBlock {world : World} {reference : FunctionRef} (base : Value) : Course world world →
    Serves reference → Course world ((Function.appendBlock reference base).after world)
  /-- A generator may be at a new block whose name is a value. -/
  spotBlock {world final : World} {reference : FunctionRef} {base : Value} {block : BlockRef} :
    Course world world → Serves reference →
      Function.appendBlock reference base world = .ok block final →
        Spot final (.operand (.block block))
  /-- A block at which a generator may be can be put behind another one. -/
  moveAfter {world : World} {reference : FunctionRef} {moved : Value} (anchor : Value) :
    Course world world → Serves reference → Spot world moved →
      Course world ((Function.moveAfter reference moved anchor).after world)
  /-- The return block of a function may be set up. -/
  setUpReturn {world : World} {reference : FunctionRef} : Course world world → Serves reference →
    Course world ((Function.setUpReturn reference).after world)

namespace Discipline

variable (discipline : Discipline) {stop : World → Bool} {world : World} {Result Next : Type}

instance : IsCourse discipline.Course :=
  discipline.isCourse

/-- An operand that may be used: it cites only routines that may be cited. -/
def Fits (operand : Operand) : Prop :=
  ∀ symbol, operand.Cites symbol → discipline.Citable symbol

/-- A value that may be used: it never cites other routines than those that may be cited. -/
def FitsValue (value : Value) : Prop :=
  ∀ world symbol, value.Cites world symbol → discipline.Citable symbol

/-- A generator in use that is there. -/
structure Has (world : World) (place : GeneratorId) : Prop where
  /-- It is in use. -/
  owned : discipline.Owns place
  /-- It is there. -/
  inside : place < world.generators.length

variable {discipline}

/-- What cites nothing may be used. -/
theorem fits_of_isAtom {operand : Operand} (atom : operand.isAtom = true) :
    discipline.Fits operand :=
  fun _ cites => (Operand.not_cites_of_isAtom atom cites).elim

/-- A value that is an operand may be used if the operand may be. -/
theorem Fits.value {operand : Operand} (fits : discipline.Fits operand) :
    discipline.FitsValue (.operand operand) :=
  fun _ symbol cites => fits symbol (Value.cites_operand.mp cites)

/-- An operand may be used if it may be as a value. -/
theorem FitsValue.operand {operand : Operand} (fits : discipline.FitsValue (.operand operand)) :
    discipline.Fits operand :=
  fun symbol cites => fits default symbol (Value.cites_operand.mpr cites)

/-- A value that consists of no operands and no functions may be used. -/
theorem fitsValue_of_isAtom {value : Value} (atom : value.isAtom = true) :
    discipline.FitsValue value :=
  fun _ _ cites => (Value.not_cites_of_isAtom atom cites).elim

/-- The items of a row may be used if the row may be. -/
theorem FitsValue.items {value : Value} (fits : discipline.FitsValue value) {items : List Value}
    (row : world.row? value = some items) : ∀ item ∈ items, discipline.FitsValue item := by
  intro item member seen symbol cites
  unfold World.row? at row
  split at row
  · cases row
    exact fits seen symbol (.list member cites)
  · cases row
    exact fits seen symbol (.tuple member cites)
  · cases row
    exact (World.not_cites_rowItems member cites).elim
  · cases row
    rcases List.mem_cons.mp member with rfl | member
    · exact (Value.not_cites_of_isAtom rfl cites).elim
    · obtain rfl := List.mem_singleton.mp member
      exact fits seen symbol (.resolution cites)
  · cases row

/-- Generators stay there. -/
theorem Has.later {before after : World} {place : GeneratorId} (has : discipline.Has before place)
    (later : discipline.Course before after) : discipline.Has after place :=
  ⟨has.owned, Nat.lt_of_lt_of_le has.inside (discipline.generators later)⟩

/-- A generator in use is for a function that is served. -/
theorem Has.serves {place : GeneratorId} (has : discipline.Has world place)
    (valid : discipline.Course world world) :
    discipline.Serves (world.generator place).function :=
  discipline.function valid has.owned has.inside

/-! ## Single steps -/

/-- A step that only leads along the course stays on it. -/
theorem follows_of_leads {step : Build Result} (valid : discipline.Course world world)
    (leads : Leads (Along discipline.Course) step) :
    Follows stop discipline.Course world step step fun _ _ => True :=
  .of_step (leads world valid) fun _ _ _ => trivial

/-- An instruction is added where a generator may be. -/
theorem follows_emit {block : BlockRef} {operation : Operation}
    (valid : discipline.Course world world)
    (spot : discipline.Spot world (.operand (.block block)))
    (permits : discipline.Permits operation)
    (fits : ∀ operand ∈ operation.uses, discipline.Fits operand) :
    Follows stop discipline.Course world (Build.emit block operation) (Build.emit block operation)
      fun result _ => discipline.Fits result := by
  refine .of_step (discipline.emit valid spot permits fits) fun result final run => ?_
  obtain ⟨made, _, _, run⟩ := bind_eq_ok.mp run
  obtain ⟨_, _, _, run⟩ := bind_eq_ok.mp run
  obtain ⟨rfl, -⟩ := pure_eq_ok.mp run
  exact fits_of_isAtom rfl

/-- A generator in use is positioned where it may be. -/
theorem follows_position {place : GeneratorId} (valid : discipline.Course world world)
    (has : discipline.Has world place) :
    Follows stop discipline.Course world (Generator.position place) (Generator.position place)
      fun block final => final = world ∧ discipline.Spot world (.operand (.block block)) := by
  refine .get ?_
  rcases known : (world.generator place).block.block? with _ | block
  · exact .throw valid
  · refine .pure valid ⟨rfl, ?_⟩
    exact Value.eq_of_block?_eq_some known ▸ discipline.position valid has.owned has.inside

/-- An instruction is added where a generator is. -/
theorem follows_emitHere {place : GeneratorId} {operation : Operation}
    (valid : discipline.Course world world) (has : discipline.Has world place)
    (permits : discipline.Permits operation)
    (fits : ∀ operand ∈ operation.uses, discipline.Fits operand) :
    Follows stop discipline.Course world (Generator.emit place operation)
      (Generator.emit place operation) fun result _ => discipline.Fits result := by
  refine (follows_position valid has).bind fun block middle later found => ?_
  obtain ⟨rfl, spot⟩ := found
  exact follows_emit valid spot permits fits

/-- A generator may be finished. -/
theorem follows_finish {place : GeneratorId} (valid : discipline.Course world world)
    (has : discipline.Has world place) :
    Follows stop discipline.Course world (Generator.finish place) (Generator.finish place)
      fun _ _ => True :=
  .modify (discipline.changeGenerator valid (fun _ => rfl)
    (discipline.position valid has.owned)) trivial

/-- A generator may go on where it may be. -/
theorem follows_moveTo (place : GeneratorId) {block : Value}
    (valid : discipline.Course world world) (spot : discipline.Spot world block) :
    Follows stop discipline.Course world (Generator.moveTo place block)
      (Generator.moveTo place block) fun _ _ => True :=
  .modify (discipline.changeGenerator valid (fun _ => rfl) fun _ => spot) trivial

/-- A new generator for a function that is served, where it may be, is one in use. -/
theorem follows_add {generator : Generator} (valid : discipline.Course world world)
    (serves : discipline.Serves generator.function)
    (spot : discipline.Spot world generator.block) :
    Follows stop discipline.Course world (Generator.add generator) (Generator.add generator)
      fun child final => discipline.Has final child := by
  refine .of_step (discipline.addGenerator valid serves spot) fun child final run => ?_
  cases run
  refine ⟨discipline.fresh valid, ?_⟩
  show world.generators.length < (world.generators ++ [generator]).length
  rw [List.length_append]
  exact Nat.lt_succ_self _

/-- A child of a generator in use is in use. -/
theorem follows_child {place : GeneratorId} {block : Value}
    (valid : discipline.Course world world) (has : discipline.Has world place)
    (spot : discipline.Spot world block) :
    Follows stop discipline.Course world (Generator.child place block)
      (Generator.child place block) fun child final => discipline.Has final child := by
  refine .get ?_
  have serves := has.serves valid
  dsimp only
  obtain ⟨start, start_def⟩ : ∃ start, start =
      if block.isGiven then block
      else Generator.entryValue (world.function (world.generator place).function) := ⟨_, rfl⟩
  have start_spot : discipline.Spot world start := by
    rw [start_def]
    split
    · exact spot
    · exact discipline.entry valid serves
  rw [← start_def]
  split
  · exact .throw valid
  · exact follows_add valid serves start_spot

/-- A generator may be at a new block. -/
theorem follows_appendNamed {reference : FunctionRef} (base : String)
    (valid : discipline.Course world world) (serves : discipline.Serves reference) :
    Follows stop discipline.Course world (Function.appendNamed reference base)
      (Function.appendNamed reference base)
      fun block final => discipline.Spot final (.operand (.block block)) :=
  .of_step (discipline.appendNamed base valid serves) fun _ _ run =>
    discipline.spotNamed valid serves run

/-- A generator may be at a new block, however it is named. -/
theorem follows_appendBlock {reference : FunctionRef} (base : Value)
    (valid : discipline.Course world world) (serves : discipline.Serves reference) :
    Follows stop discipline.Course world (Function.appendBlock reference base)
      (Function.appendBlock reference base)
      fun block final => discipline.Spot final (.operand (.block block)) :=
  .of_step (discipline.appendBlock base valid serves) fun _ _ run =>
    discipline.spotBlock valid serves run

/-- A block may be moved at which a generator may be. -/
theorem follows_moveAfter {reference : FunctionRef} {moved : Value} (anchor : Value)
    (valid : discipline.Course world world) (serves : discipline.Serves reference)
    (spot : discipline.Spot world moved) :
    Follows stop discipline.Course world (Function.moveAfter reference moved anchor)
      (Function.moveAfter reference moved anchor) fun _ _ => True :=
  .of_step (discipline.moveAfter anchor valid serves spot) fun _ _ _ => trivial

/-- The return block of a function may be set up. -/
theorem follows_setUpReturn {reference : FunctionRef} (valid : discipline.Course world world)
    (serves : discipline.Serves reference) :
    Follows stop discipline.Course world (Function.setUpReturn reference)
      (Function.setUpReturn reference) fun _ _ => True :=
  .of_step (discipline.setUpReturn valid serves) fun _ _ _ => trivial

/-! ## Situations -/

/-- Something that holds of a world and of all worlds that come later. -/
structure Situation (discipline : Discipline) where
  /-- What holds of a world. -/
  Holds : World → Prop
  /-- It goes on to hold. -/
  later {before after : World} : discipline.Course before after → Holds before → Holds after

/-- A generator in use is there. -/
def having (discipline : Discipline) (place : GeneratorId) : discipline.Situation where
  Holds world := discipline.Has world place
  later later has := has.later later

/-- A generator in use is there, and it may be at a block. -/
def havingAt (discipline : Discipline) (place : GeneratorId) (block : BlockRef) :
    discipline.Situation where
  Holds world := discipline.Has world place ∧ discipline.Spot world (.operand (.block block))
  later later holds := ⟨holds.1.later later, discipline.spot later holds.2⟩

/-- **A step runs in a situation**: it stays on the course, and its result is as said. -/
def Runs (situation : discipline.Situation) (step : Build Result) (post : Result → Prop) : Prop :=
  ∀ stop world, discipline.Course world world → situation.Holds world →
    Follows stop discipline.Course world step step fun value _ => post value

namespace Runs

variable {situation : discipline.Situation} {step : Build Result} {post : Result → Prop}

/-- Giving a value runs. -/
theorem pure {value : Result} (holds : post value) : Runs situation (pure value) post :=
  fun _ _ valid _ => .pure valid holds

/-- Failing runs. -/
theorem throw {fault : Fault} : Runs situation (throw fault : Build Result) post :=
  fun _ _ valid _ => .throw valid

/-- Rejecting something runs. -/
theorem reject {cause : Cause} : Runs situation (Build.reject cause : Build Result) post :=
  throw

/-- What holds of a result also holds if less is said. -/
theorem weaken {wider : Result → Prop} (runs : Runs situation step post)
    (implies : ∀ value, post value → wider value) : Runs situation step wider :=
  fun stop world valid holds => (runs stop world valid holds).weaken fun value _ _ =>
    implies value

/-- Steps run one after the other. -/
theorem bind {next : Result → Build Next} {goal : Next → Prop} (first : Runs situation step post)
    (second : ∀ value, post value → Runs situation (next value) goal) :
    Runs situation (step >>= next) goal :=
  fun stop world valid holds => (first stop world valid holds).bind fun value middle later known =>
    second value known stop middle (IsCourse.arrives later) (situation.later later holds)

/-- Looking at the world gives a world of the situation. -/
theorem get {next : World → Build Next} {goal : Next → Prop}
    (second : ∀ world, discipline.Course world world → situation.Holds world →
      Runs situation (next world) goal) : Runs situation (get >>= next) goal :=
  fun stop world valid holds => .get (second world valid holds stop world valid holds)

/-- What only leads along the course runs. -/
theorem of_leads (leads : ∀ world, discipline.Course world world → situation.Holds world →
    Leads (Along discipline.Course) step) : Runs situation step fun _ => True :=
  fun _ world valid holds => follows_of_leads valid (leads world valid holds)

/-- A check that looks at no world runs. -/
theorem lift {check : Except Fault Result} (holds : ∀ value, check = .ok value → post value) :
    Runs situation (liftM check : Build Result) post := by
  cases check with
  | error fault => exact throw
  | ok value => exact pure (holds value rfl)

/-- A check that looks at no world runs, whatever it gives. -/
theorem check {check : Except Fault Result} :
    Runs situation (liftM check : Build Result) fun _ => True :=
  lift fun _ _ => trivial

/-- What comes after a failure is never done. -/
theorem throwThen {fault : Fault} {next : Result → Build Next} {goal : Next → Prop} :
    Runs situation ((MonadExcept.throw fault : Build Result) >>= next) goal :=
  fun _ _ valid _ => .of_step valid fun _ _ run => by
    obtain ⟨_, _, failed, _⟩ := bind_eq_ok.mp run
    exact (Build.throw_ne_ok failed).elim

/-- What comes after a rejection is never done. -/
theorem rejectThen {cause : Cause} {next : Result → Build Next} {goal : Next → Prop} :
    Runs situation ((Build.reject cause : Build Result) >>= next) goal :=
  throwThen

/-- What runs where a generator is runs when it may be at a block, too. -/
theorem positioned {place : GeneratorId} (runs : Runs (discipline.having place) step post)
    (block : BlockRef) : Runs (discipline.havingAt place block) step post :=
  fun stop world valid holds => runs stop world valid holds.1

end Runs

section

variable {place : GeneratorId}

/-- What follows when a generator knows the block that it is at. -/
theorem runs_position {next : BlockRef → Build Next} {goal : Next → Prop}
    (second : ∀ block, Runs (discipline.havingAt place block) (next block) goal) :
    Runs (discipline.having place) (Generator.position place >>= next) goal :=
  fun stop _ valid has => (follows_position valid has).bind fun block middle later found =>
    second block stop middle (IsCourse.arrives later)
      ⟨has.later later, discipline.spot later found.2⟩

/-- An instruction is added at a block where the generator may be. -/
theorem runs_emitAt {block : BlockRef} {operation : Operation}
    (permits : discipline.Permits operation)
    (fits : ∀ operand ∈ operation.uses, discipline.Fits operand) :
    Runs (discipline.havingAt place block) (Build.emit block operation) discipline.Fits :=
  fun _ _ valid holds => follows_emit valid holds.2 permits fits

/-- An instruction is added where the generator is. -/
theorem runs_emit {operation : Operation} (permits : discipline.Permits operation)
    (fits : ∀ operand ∈ operation.uses, discipline.Fits operand) :
    Runs (discipline.having place) (Generator.emit place operation) discipline.Fits :=
  fun _ _ valid has => follows_emitHere valid has permits fits

/-- An instruction that ends no block is added at a block where the generator may be. -/
theorem runs_straightAt {block : BlockRef} {operation : Operation}
    (straight : operation.isTerminator = false)
    (fits : ∀ operand ∈ operation.uses, discipline.Fits operand) :
    Runs (discipline.havingAt place block) (Build.emit block operation) discipline.Fits :=
  runs_emitAt (discipline.straight straight) fits

/-- An instruction that ends no block is added where the generator is. -/
theorem runs_straight {operation : Operation} (straight : operation.isTerminator = false)
    (fits : ∀ operand ∈ operation.uses, discipline.Fits operand) :
    Runs (discipline.having place) (Generator.emit place operation) discipline.Fits :=
  runs_emit (discipline.straight straight) fits

/-- The library of a generator is that of a function that is served. -/
theorem runs_library : Runs (discipline.having place) (Generator.library place) fun library =>
    ∃ reference, discipline.Serves reference ∧ reference.owner = library :=
  fun _ _ valid has => .get (.pure valid ⟨_, has.serves valid, rfl⟩)

/-- What only writes texts runs. -/
theorem runs_texts {step : Build Result}
    (leads : ∀ (Effect : World → World → Prop) [AllowsNewTexts Effect], Leads Effect step) :
    Runs (discipline.having place) step fun _ => True :=
  Runs.of_leads fun _ valid has =>
    have := discipline.symbols (has.serves valid)
    leads (Along discipline.Course)

/-- What is done unless a generator is finished runs. -/
theorem runs_unlessFinished {action : Build Value}
    (runs : Runs (discipline.having place) action fun _ => True) :
    Runs (discipline.having place) (Generator.unlessFinished place action) fun _ => True := by
  refine Runs.get fun world _ _ => ?_
  split
  · exact Runs.pure trivial
  · exact runs

/-- An operand that may be used is given unless a generator is finished. -/
theorem runs_operandUnlessFinished {action : Build Operand}
    (runs : Runs (discipline.having place) action discipline.Fits) :
    Runs (discipline.having place) (Generator.operandUnlessFinished place action) fun _ => True :=
  runs_unlessFinished (runs.bind fun _ _ => Runs.pure trivial)

end

end Discipline

end StructuredIR
