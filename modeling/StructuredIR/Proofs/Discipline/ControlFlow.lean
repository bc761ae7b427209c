import StructuredIR.Proofs.Discipline.Straight

/-! # Disciplines, branches and structured control flow

Branches and returns run under a discipline. Conditionals, loops and calls hand generators to
callbacks: they stay on the course, whether or not a callback fails, if all calls of their callbacks
do and what these give may be used. -/

namespace StructuredIR

open Build (Leads Follows)

namespace Discipline

variable {discipline : Discipline} {stop : World → Bool} {world : World} {place : GeneratorId}

/-! ## Branches -/

/-- A generator may be finished. -/
theorem runs_finish : Runs (discipline.having place) (Generator.finish place) fun _ => True :=
  fun _ _ valid has => follows_finish valid has

/-- A generator may go on at a block where it may be. -/
theorem runs_moveTo {block : BlockRef} :
    Runs (discipline.havingAt place block)
      (Generator.moveTo place (Generator.blockValue block)) fun _ => True :=
  fun _ _ valid holds => follows_moveTo place valid holds.2

/-- What is done unless a generator is finished stays on the course if it does. -/
theorem follows_unlessFinished {held action : Build Value}
    (valid : discipline.Course world world)
    (follows : Follows stop discipline.Course world held action fun _ _ => True) :
    Follows stop discipline.Course world (Generator.unlessFinished place held)
      (Generator.unlessFinished place action) fun _ _ => True := by
  refine .get ?_
  split
  · exact .pure valid trivial
  · exact follows

/-- What is done and gives nothing, unless a generator is finished, stays on the course if it
does. -/
theorem follows_actUnlessFinished {held action : Build Unit}
    (valid : discipline.Course world world)
    (follows : Follows stop discipline.Course world held action fun _ _ => True) :
    Follows stop discipline.Course world (Generator.actUnlessFinished place held)
      (Generator.actUnlessFinished place action) fun _ _ => True :=
  follows_unlessFinished valid <|
    follows.bind fun _ _ later _ => .pure (IsCourse.arrives later) trivial

/-- What is done and gives nothing, unless a generator is finished, runs. -/
theorem runs_actUnlessFinished {action : Build Unit}
    (runs : Runs (discipline.having place) action fun _ => True) :
    Runs (discipline.having place) (Generator.actUnlessFinished place action) fun _ => True :=
  runs_unlessFinished (runs.bind fun _ _ => Runs.pure trivial)

/-- A branch runs. -/
theorem runs_branchTo (target : Value) :
    Runs (discipline.having place) (Generator.branchTo place target) fun _ => True :=
  Runs.get fun _ _ _ =>
    (runs_emit (discipline.branch _) (by simp [Operation.uses])).bind fun _ _ => runs_finish

/-- What a value that may be branched on is coerced to may be branched on. -/
theorem runs_condition {value : Value} (fits : discipline.FitsValue value)
    (tests : discipline.Tests value) :
    Runs (discipline.having place)
      (Generator.coerce place value (some Generator.conditionType))
      fun condition => discipline.Fits condition ∧
        ∀ whenTrue whenFalse, discipline.Permits (.branchIf condition whenTrue whenFalse) :=
  fun _ _ valid has => (follows_coerce valid has fits _).weaken fun _ _ _ made =>
    ⟨made.1, fun _ _ => discipline.branchIf _ _ tests made.2⟩

/-- Leading an open generator on runs. -/
theorem runs_leadTo (target : Value) :
    Runs (discipline.having place) (Generator.leadTo place target) fun _ => True := by
  refine Runs.get fun world _ _ => ?_
  split
  · exact Runs.pure trivial
  · exact runs_branchTo target

/-- A branch that is asked for runs. -/
theorem runs_branch (target : Value) :
    Runs (discipline.having place) (Generator.branch place target) fun _ => True :=
  runs_actUnlessFinished (runs_branchTo target)

/-- Leaving a loop runs. -/
theorem runs_leaveLoop :
    Runs (discipline.having place) (Generator.leaveLoop place) fun _ => True := by
  refine runs_actUnlessFinished (Runs.get fun world _ _ => ?_)
  split
  · exact Runs.reject
  · exact runs_branchTo _

/-- Going on to the next turn of a loop runs. -/
theorem runs_nextTurn :
    Runs (discipline.having place) (Generator.nextTurn place) fun _ => True := by
  refine runs_actUnlessFinished (Runs.get fun world _ _ => ?_)
  split
  · exact Runs.reject
  · exact runs_branchTo _

/-! ## Returns -/

/-- Whether a function yields nothing is known when it is asked for. -/
theorem runs_isVoid {Next : Type} {next : Bool → Build Next} {goal : Next → Prop}
    (second : ∀ (stop : World → Bool) (world : World), discipline.Course world world →
      discipline.Has world place →
        Follows stop discipline.Course world
          (next ((world.routineOf (world.generator place).function).result = .void))
          (next ((world.routineOf (world.generator place).function).result = .void))
          fun value _ => goal value) :
    Runs (discipline.having place) (Generator.isVoid place >>= next) goal :=
  fun stop world valid has => .get (second stop world valid has)

/-- A function that yields nothing returns in place. -/
theorem follows_returnNothing (valid : discipline.Course world world)
    (has : discipline.Has world place)
    (nothing : (world.routineOf (world.generator place).function).result = .void) :
    Follows stop discipline.Course world (Generator.emit place .retVoid)
      (Generator.emit place .retVoid) fun _ _ => True :=
  (follows_emitHere valid has (discipline.retVoid valid (has.serves valid) nothing)
    (by simp [Operation.uses])).weaken fun _ _ _ _ => trivial

/-- Setting up the return block runs. -/
theorem runs_setUpReturn {situation : discipline.Situation} {reference : FunctionRef}
    (serves : discipline.Serves reference) :
    Runs situation (Function.setUpReturn reference) fun _ => True :=
  fun _ _ valid _ => follows_setUpReturn valid serves

/-- A shared return runs. -/
theorem runs_returnShared {value : Value} (fits : discipline.FitsValue value) :
    Runs (discipline.having place) (Generator.returnShared place value) fun _ => True := by
  refine runs_actUnlessFinished (runs_isVoid fun stop world valid has => ?_)
  split
  next nothing =>
    refine (follows_returnNothing valid has (of_decide_eq_true nothing)).bind
      fun _ middle later _ => ?_
    exact follows_finish (IsCourse.arrives later) (has.later later)
  next =>
    have shared : Runs (discipline.having place) (do
        let exit ← Function.setUpReturn (world.generator place).function
        Generator.storeResult place value
        let _ ← Generator.emit place (.branch (Generator.blockValue exit))
        Generator.finish place) fun _ => True := by
      refine (runs_setUpReturn (has.serves valid)).bind fun exit _ => ?_
      refine (runs_storeResult fits).bind fun _ _ => ?_
      exact (runs_emit (discipline.branch _) (by simp [Operation.uses])).bind
        fun _ _ => runs_finish
    exact .get (shared stop world valid has)

/-- A conditional return runs. -/
theorem runs_returnIf {condition value : Value} (continuation : Value)
    (fits : discipline.FitsValue condition) (tests : discipline.Tests condition)
    (fitsToo : discipline.FitsValue value) :
    Runs (discipline.having place) (Generator.returnIf place condition value continuation)
      fun _ => True := by
  refine runs_actUnlessFinished (Runs.get fun world valid has => ?_)
  have serves := has.serves valid
  refine (runs_setUpReturn serves).bind fun exit _ => ?_
  refine (runs_condition fits tests).bind fun condition made => ?_
  obtain ⟨fits, permits⟩ := made
  refine (runs_storeResult fitsToo).bind fun _ _ => ?_
  have uses (target : Value) : ∀ operand ∈
      (Operation.branchIf condition (Generator.blockValue exit) target).uses,
        discipline.Fits operand := by
    simp [Operation.uses, fits]
  split
  · rw [pure_bind]
    exact (runs_emit (permits _ _) (uses continuation)).bind fun _ _ => runs_finish
  · intro stop world valid has
    rw [map_eq_pure_bind, bind_assoc]
    refine (follows_appendNamed "block" valid serves).bind fun block middle later spot => ?_
    have valid := IsCourse.arrives later
    rw [pure_bind]
    exact (((runs_emit (permits _ _) (uses _)).positioned block).bind fun _ _ => runs_moveTo) stop
      middle valid ⟨has.later later, spot⟩

/-- A return in place stays on the course, if it is of a value that may be returned so. -/
theorem follows_returnDirectly {value : Value} (valid : discipline.Course world world)
    (has : discipline.Has world place) (fits : discipline.FitsValue value)
    (yields : discipline.Yields world value) :
    Follows stop discipline.Course world (Generator.returnDirectly place value)
      (Generator.returnDirectly place value) fun _ _ => True := by
  have serves := has.serves valid
  refine follows_actUnlessFinished valid (.get ?_)
  dsimp only
  split
  next nothing =>
    refine (follows_returnNothing valid has (of_decide_eq_true nothing)).bind
      fun _ middle later _ => ?_
    exact follows_finish (IsCourse.arrives later) (has.later later)
  next something =>
    have yielding := of_decide_eq_false (Bool.eq_false_of_not_eq_true something)
    split
    · exact .bind (.reject valid) fun _ _ _ => False.elim
    · refine .get ((follows_position valid has).bind fun block middle later found => ?_)
      obtain ⟨rfl, spot⟩ := found
      refine (follows_coerce valid has fits _).bind fun operand middle later made => ?_
      have permits := discipline.ret valid serves yielding yields made.2
      have valid := IsCourse.arrives later
      refine (follows_emit valid (discipline.spot later spot) permits
        (by simp [Operation.uses, made.1])).bind fun _ final further _ => ?_
      exact follows_finish (IsCourse.arrives further) ((has.later later).later further)

/-- Storing the value to return runs. -/
theorem runs_presetReturn {value : Value} (fits : discipline.FitsValue value) :
    Runs (discipline.having place) (Generator.presetReturn place value) fun _ => True := by
  refine runs_actUnlessFinished (runs_isVoid fun stop world valid has => ?_)
  have preset : Runs (discipline.having place) (do
      let _ ← Function.setUpReturn (world.generator place).function
      Generator.storeResult place value) fun _ => True :=
    (runs_setUpReturn (has.serves valid)).bind fun _ _ => runs_storeResult fits
  split
  · exact .pure valid trivial
  · dsimp only
    split
    · exact .bind (.reject valid) fun _ _ _ => False.elim
    · exact .get (preset stop world valid has)

/-! ## Callbacks -/

variable (discipline stop) in
/-- **A callback obeys a discipline** if its calls follow another one on the course and give values
that may be used. -/
abbrev Obeys (held callback : Callback) : Prop :=
  held.Follows stop discipline.Course discipline.FitsValue callback

variable {reference : FunctionRef}

/-- A call of a callback that obeys the discipline. -/
theorem follows_callback {held callback : Callback} (valid : discipline.Course world world)
    (obeys : discipline.Obeys stop held callback) (arguments : List Value) :
    Follows stop discipline.Course world (held.run arguments) (callback.run arguments)
      fun value _ => discipline.FitsValue value :=
  obeys.run world arguments valid

/-- A child on a block where it may be. -/
theorem follows_childAt {block : BlockRef} (valid : discipline.Course world world)
    (has : discipline.Has world place)
    (spot : discipline.Spot world (.operand (.block block))) :
    Follows stop discipline.Course world (Generator.childAt place block)
      (Generator.childAt place block) fun child final => discipline.Has final child :=
  follows_child valid has spot

/-- A new block with a generator on it stays on the course. -/
theorem follows_openBlock {held body : Option Callback} (name : Value)
    (valid : discipline.Course world world) (has : discipline.Has world place)
    (obeys : Option.Rel (discipline.Obeys stop) held body) :
    Follows stop discipline.Course world (Generator.openBlock place name held)
      (Generator.openBlock place name body) fun _ _ => True := by
  refine follows_unlessFinished valid (.get ?_)
  refine (follows_appendBlock name valid (has.serves valid)).bind
    fun block middle later spot => ?_
  have valid := IsCourse.arrives later
  refine (follows_childAt valid (has.later later) spot).bind fun opened middle later _ => ?_
  have valid := IsCourse.arrives later
  cases obeys with
  | none => exact .pure valid trivial
  | some obeys =>
      refine (follows_callback valid obeys _).bind fun _ middle later _ => ?_
      exact .pure (IsCourse.arrives later) trivial

/-! ## Conditionals -/

/-- An arm of a conditional stays on the course, and its generator is in use. -/
theorem follows_buildArm {held body : Callback} (name : String)
    (valid : discipline.Course world world) (serves : discipline.Serves reference)
    (has : discipline.Has world place) (obeys : discipline.Obeys stop held body) :
    Follows stop discipline.Course world (Generator.buildArm place reference name held)
      (Generator.buildArm place reference name body)
      fun arm final => discipline.Has final arm := by
  refine (follows_appendNamed name valid serves).bind fun block middle later spot => ?_
  have valid := IsCourse.arrives later
  refine (follows_childAt valid (has.later later) spot).bind fun arm middle later has => ?_
  have valid := IsCourse.arrives later
  refine (follows_callback valid obeys _).bind fun _ middle later _ => ?_
  exact .pure (IsCourse.arrives later) (has.later later)

/-- A new block as a value. -/
theorem follows_newBlock (name : String) (valid : discipline.Course world world)
    (serves : discipline.Serves reference) :
    Follows stop discipline.Course world
      (Generator.blockValue <$> Function.appendNamed reference name)
      (Generator.blockValue <$> Function.appendNamed reference name)
      fun block final => discipline.Spot final block :=
  (follows_appendNamed name valid serves).map fun _ _ _ spot => spot

/-- A generator may be at the place where paths meet unless that was given. -/
theorem follows_meetingPlace {arm : GeneratorId} (given : Value)
    (valid : discipline.Course world world) (serves : discipline.Serves reference)
    (has : discipline.Has world arm) :
    Follows stop discipline.Course world (Generator.meetingPlace arm reference given)
      (Generator.meetingPlace arm reference given)
      fun exit final => given.isGiven = false → discipline.Spot final exit := by
  refine .get ?_
  dsimp only
  split
  · have own : Follows stop discipline.Course world (some <$> Generator.position arm)
        (some <$> Generator.position arm)
        fun own? final => final = world ∧
          ∃ own, own? = some own ∧ discipline.Spot world (.operand (.block own)) := by
      refine (follows_position valid has).map fun block middle later found => ?_
      obtain ⟨rfl, spot⟩ := found
      exact ⟨rfl, block, rfl, spot⟩
    refine own.bind fun own? middle later found => ?_
    obtain ⟨rfl, own, rfl, spot⟩ := found
    refine .get ?_
    split
    · exact .pure valid fun _ => spot
    · refine (follows_appendNamed "exit" valid serves).bind fun exit middle later spot => ?_
      have valid := IsCourse.arrives later
      refine (runs_leadTo _ stop middle valid (has.later later)).bind fun _ middle later _ => ?_
      exact .pure (IsCourse.arrives later) fun _ => discipline.spot later spot
  · have none : Follows stop discipline.Course world (pure none) (pure none)
        fun own? final => final = world ∧ own? = (none : Option BlockRef) :=
      .pure valid ⟨rfl, rfl⟩
    refine none.bind fun own? middle later found => ?_
    obtain ⟨rfl, rfl⟩ := found
    dsimp only
    split
    next isGiven =>
      rw [pure_bind]
      refine (runs_leadTo given stop middle valid has).bind fun _ middle later _ => ?_
      exact .pure (IsCourse.arrives later) fun missing => by simp [isGiven] at missing
    next =>
      refine (follows_newBlock "exit" valid serves).bind fun exit middle later spot => ?_
      have valid := IsCourse.arrives later
      refine (runs_leadTo exit stop middle valid (has.later later)).bind
        fun _ middle later _ => ?_
      exact .pure (IsCourse.arrives later) fun _ => discipline.spot later spot

/-- The second arm of a conditional stays on the course. -/
theorem follows_buildElse {arm : GeneratorId} {held body : Option Callback} (exit : Value)
    (valid : discipline.Course world world) (serves : discipline.Serves reference)
    (has : discipline.Has world place) (obeys : Option.Rel (discipline.Obeys stop) held body) :
    Follows stop discipline.Course world (Generator.buildElse place reference arm held exit)
      (Generator.buildElse place reference arm body exit) fun _ _ => True := by
  cases obeys with
  | none => exact .pure valid trivial
  | some obeys =>
      refine (follows_buildArm "else" valid serves has obeys).bind fun arm middle later has => ?_
      have valid := IsCourse.arrives later
      refine (runs_leadTo exit stop middle valid has).bind fun _ middle later _ => ?_
      have valid := IsCourse.arrives later
      refine (follows_finish valid (has.later later)).bind fun _ middle later _ => ?_
      exact .get (.pure (IsCourse.arrives later) trivial)

/-- **A conditional** stays on the course. -/
theorem follows_conditional {heldThen thenBody heldElse elseBody : Option Callback}
    {condition : Value} (given : Value) (valid : discipline.Course world world)
    (has : discipline.Has world place) (fits : discipline.FitsValue condition)
    (tests : discipline.Tests condition)
    (obeysThen : Option.Rel (discipline.Obeys stop) heldThen thenBody)
    (obeysElse : Option.Rel (discipline.Obeys stop) heldElse elseBody) :
    Follows stop discipline.Course world
      (Generator.conditional place condition heldThen heldElse given)
      (Generator.conditional place condition thenBody elseBody given) fun _ _ => True := by
  refine follows_actUnlessFinished valid ?_
  cases obeysThen with
  | none => exact .reject valid
  | some obeysThen =>
      refine .get ?_
      have serves := has.serves valid
      dsimp only
      generalize (world.generator place).function = reference at serves
      refine (runs_condition fits tests stop world valid has).bind
        fun condition middle later made => ?_
      obtain ⟨fits, permits⟩ := made
      have valid := IsCourse.arrives later
      have has := has.later later
      refine (follows_buildArm "then" valid serves has obeysThen).bind
        fun arm middle later hasArm => ?_
      have valid := IsCourse.arrives later
      have has := has.later later
      refine (follows_meetingPlace given valid serves hasArm).bind
        fun exit middle later spot => ?_
      have valid := IsCourse.arrives later
      have has := has.later later
      refine (follows_finish valid (hasArm.later later)).bind fun _ middle later _ => .get ?_
      have valid := IsCourse.arrives later
      have has := has.later later
      have spot := fun missing => discipline.spot later (spot missing)
      refine (follows_buildElse exit valid serves has obeysElse).bind
        fun arms middle later _ => ?_
      have valid := IsCourse.arrives later
      have has := has.later later
      have spot := fun missing => discipline.spot later (spot missing)
      obtain ⟨whenFalse, last⟩ := arms
      have branches (world : World) (valid : discipline.Course world world)
          (has : discipline.Has world place) (whenTrue : Value) :
          Follows stop discipline.Course world
            (Generator.emit place (.branchIf condition whenTrue whenFalse))
            (Generator.emit place (.branchIf condition whenTrue whenFalse)) fun _ _ => True :=
        (follows_emitHere valid has (permits _ _) (by simp [Operation.uses, fits])).weaken
          fun _ _ _ _ => trivial
      dsimp only
      split
      · refine (branches middle valid has _).bind fun _ middle later _ => ?_
        exact follows_finish (IsCourse.arrives later) (has.later later)
      next missing =>
        have spot := spot (Bool.eq_false_of_not_eq_true missing)
        refine .get ?_
        refine (follows_moveAfter _ valid serves spot).bind fun _ middle later _ => ?_
        have valid := IsCourse.arrives later
        have has := has.later later
        have spot := discipline.spot later spot
        refine (branches middle valid has _).bind fun _ middle later _ => ?_
        exact follows_moveTo place (IsCourse.arrives later) (discipline.spot later spot)

/-! ## Loops -/

/-- A loop begins at a block where a generator may be. -/
theorem follows_loopHeader (valid : discipline.Course world world)
    (serves : discipline.Serves reference) (has : discipline.Has world place) :
    Follows stop discipline.Course world (Generator.loopHeader place reference)
      (Generator.loopHeader place reference)
      fun header final => discipline.Spot final (.operand (.block header)) := by
  refine (follows_position valid has).bind fun current middle later found => ?_
  obtain ⟨rfl, spot⟩ := found
  refine .get (.get ?_)
  split
  · exact .pure valid spot
  · refine (follows_appendNamed "loop" valid serves).bind fun header middle later spot => ?_
    have valid := IsCourse.arrives later
    refine (runs_emit (discipline.branch _) (by simp [Operation.uses]) stop middle valid
      (has.later later)).bind fun _ middle later _ => ?_
    exact .pure (IsCourse.arrives later) (discipline.spot later spot)

/-- Generators may be at the blocks of a loop, but not at its exit if that was given. -/
structure SpotBlocks (discipline : Discipline) (world : World) (given : Value)
    (blocks : Generator.LoopBlocks) : Prop where
  /-- A generator may be at the header. -/
  header : discipline.Spot world (.operand (.block blocks.header))
  /-- A generator may be at the block of the body. -/
  body : ∀ block ∈ blocks.body, discipline.Spot world (.operand (.block block))
  /-- A generator may be at the block of the increment. -/
  increment : ∀ block ∈ blocks.increment, discipline.Spot world (.operand (.block block))
  /-- A generator may be at the exit. -/
  exit : given.isGiven = false → discipline.Spot world blocks.exit

/-- Generators may be at the blocks of a loop later on. -/
theorem SpotBlocks.later {before after : World} {given : Value} {blocks : Generator.LoopBlocks}
    (spots : discipline.SpotBlocks before given blocks)
    (later : discipline.Course before after) : discipline.SpotBlocks after given blocks where
  header := discipline.spot later spots.header
  body block member := discipline.spot later (spots.body block member)
  increment block member := discipline.spot later (spots.increment block member)
  exit missing := discipline.spot later (spots.exit missing)

/-- A generator may be at the block of the body of a loop. -/
theorem follows_bodyBlock {header : BlockRef} (parts : Generator.LoopParts)
    (valid : discipline.Course world world) (serves : discipline.Serves reference)
    (spot : discipline.Spot world (.operand (.block header))) :
    Follows stop discipline.Course world (Generator.bodyBlock reference header parts)
      (Generator.bodyBlock reference header parts)
      fun body final => ∀ block ∈ body, discipline.Spot final (.operand (.block block)) := by
  unfold Generator.bodyBlock
  split
  · exact .pure valid fun block member => (Option.not_mem_none block member).elim
  · refine .pure valid fun block member => ?_
    cases member
    exact spot
  · refine (follows_appendNamed "body" valid serves).map fun _ final later spot block member => ?_
    cases member
    exact spot

/-- A generator may be at the block of the increment of a loop. -/
theorem follows_incrementBlock {header : BlockRef} (parts : Generator.LoopParts)
    (valid : discipline.Course world world) (serves : discipline.Serves reference)
    (spot : discipline.Spot world (.operand (.block header))) :
    Follows stop discipline.Course world (Generator.incrementBlock reference header parts)
      (Generator.incrementBlock reference header parts)
      fun increment final =>
        ∀ block ∈ increment, discipline.Spot final (.operand (.block block)) := by
  unfold Generator.incrementBlock
  split
  · exact .pure valid fun block member => (Option.not_mem_none block member).elim
  · split
    · refine .pure valid fun block member => ?_
      cases member
      exact spot
    · refine (follows_appendNamed "increment" valid serves).map
        fun _ final later spot block member => ?_
      cases member
      exact spot

/-- A generator may be at the exit of a loop, unless it was given. -/
theorem follows_loopEnd (given : Value) (valid : discipline.Course world world)
    (serves : discipline.Serves reference) :
    Follows stop discipline.Course world (Generator.loopEnd reference given)
      (Generator.loopEnd reference given)
      fun exit final => given.isGiven = false → discipline.Spot final exit := by
  unfold Generator.loopEnd
  split
  next isGiven => exact .pure valid fun missing => by simp [isGiven] at missing
  next => exact (follows_newBlock "break" valid serves).weaken fun _ _ _ spot _ => spot

/-- Generators may be at the blocks of a loop, but not at its exit if that was given. -/
theorem follows_loopBlocks {header : BlockRef} (parts : Generator.LoopParts) (given : Value)
    (valid : discipline.Course world world) (serves : discipline.Serves reference)
    (spot : discipline.Spot world (.operand (.block header))) :
    Follows stop discipline.Course world (Generator.loopBlocks reference header parts given)
      (Generator.loopBlocks reference header parts given)
      fun blocks final => discipline.SpotBlocks final given blocks := by
  refine (follows_bodyBlock parts valid serves spot).bind fun body middle later spotBody => ?_
  have valid := IsCourse.arrives later
  have spot := discipline.spot later spot
  refine (follows_incrementBlock parts valid serves spot).bind
    fun increment middle later spotIncrement => ?_
  have valid := IsCourse.arrives later
  have spot := discipline.spot later spot
  have spotBody := fun block member => discipline.spot later (spotBody block member)
  refine (follows_loopEnd given valid serves).bind fun exit middle later spotExit => ?_
  exact .pure (IsCourse.arrives later)
    { header := discipline.spot later spot
      body := fun block member => discipline.spot later (spotBody block member)
      increment := fun block member => discipline.spot later (spotIncrement block member)
      exit := spotExit }

/-- A generator for a part of a loop is in use. -/
theorem follows_loopPart {block : BlockRef} (blocks : Generator.LoopBlocks)
    (valid : discipline.Course world world) (has : discipline.Has world place)
    (spot : discipline.Spot world (.operand (.block block))) :
    Follows stop discipline.Course world (Generator.loopPart place block blocks)
      (Generator.loopPart place block blocks) fun part final => discipline.Has final part := by
  refine (follows_childAt valid has spot).bind fun part middle later has => ?_
  have valid := IsCourse.arrives later
  have positioned : Follows stop discipline.Course middle
      (modify (·.changeGenerator part fun generator =>
        { generator with
          loopBlock := Generator.blockValue blocks.continue
          loopExit := blocks.exit }) : Build Unit)
      (modify (·.changeGenerator part fun generator =>
        { generator with
          loopBlock := Generator.blockValue blocks.continue
          loopExit := blocks.exit }) : Build Unit) fun _ _ => True :=
    .modify (discipline.changeGenerator valid (fun _ => rfl)
      (discipline.position valid has.owned)) trivial
  refine positioned.bind fun _ middle later _ => ?_
  exact .pure (IsCourse.arrives later) (has.later later)

/-- Callbacks that take as many arguments are given as many values. -/
theorem trimmed_eq {held callback : Callback} {Item : Type}
    (obeys : discipline.Obeys stop held callback) (values : List Item) :
    Generator.trimmed held values = Generator.trimmed callback values := by
  rw [Generator.trimmed, Generator.trimmed, obeys.arity]

/-- Of some slots that may be used, those that a callback is given may be used. -/
theorem fits_trimmed {callback : Callback} {slots : List Operand}
    (fits : ∀ slot ∈ slots, discipline.Fits slot) :
    ∀ slot ∈ Generator.trimmed callback slots, discipline.Fits slot := by
  intro slot member
  unfold Generator.trimmed at member
  split at member
  · exact fits slot member
  · exact fits slot (List.mem_of_mem_take member)

/-- The body of a loop stays on the course. -/
theorem follows_buildBody {held body : Option Callback} {block : Option BlockRef}
    {slots : List Operand} (blocks : Generator.LoopBlocks)
    (valid : discipline.Course world world) (has : discipline.Has world place)
    (spot : ∀ block' ∈ block, discipline.Spot world (.operand (.block block')))
    (fits : ∀ slot ∈ slots, discipline.Fits slot)
    (obeys : Option.Rel (discipline.Obeys stop) held body) :
    Follows stop discipline.Course world (Generator.buildBody place blocks slots held block)
      (Generator.buildBody place blocks slots body block) fun _ _ => True := by
  cases obeys with
  | none => exact .pure valid trivial
  | some obeys =>
      cases block with
      | none => exact .pure valid trivial
      | some block =>
          simp only [Generator.buildBody, trimmed_eq obeys]
          refine (follows_loopPart blocks valid has (spot block rfl)).bind
            fun part middle later has => ?_
          have valid := IsCourse.arrives later
          refine (runs_loadSlots (fits_trimmed fits) stop middle valid has).bind
            fun values middle later _ => ?_
          have valid := IsCourse.arrives later
          have has := has.later later
          refine (follows_callback valid obeys _).bind fun _ middle later _ => ?_
          have valid := IsCourse.arrives later
          have has := has.later later
          refine (runs_leadTo _ stop middle valid has).bind fun _ middle later _ => ?_
          exact follows_finish (IsCourse.arrives later) (has.later later)

/-- The branch of the condition of a loop stays on the course. -/
theorem runs_branchOn {part : GeneratorId} {result : Value} (blocks : Generator.LoopBlocks)
    (fits : discipline.FitsValue result) (tests : discipline.Tests result) :
    Runs (discipline.having part) (Generator.branchOn part blocks result) fun _ => True := by
  refine Runs.get fun world _ _ => ?_
  split
  · exact Runs.pure trivial
  · refine (runs_condition fits tests).bind fun condition made => ?_
    exact (runs_emit (made.2 _ _) (by simp [Operation.uses, made.1])).bind fun _ _ => runs_finish

/-- The condition of a loop stays on the course. -/
theorem follows_buildCompare {held compare : Option Callback} {blocks : Generator.LoopBlocks}
    {slots : List Operand} (valid : discipline.Course world world)
    (has : discipline.Has world place)
    (spot : discipline.Spot world (.operand (.block blocks.header)))
    (fits : ∀ slot ∈ slots, discipline.Fits slot)
    (obeys : Option.Rel (discipline.Obeys stop) held compare)
    (tests : ∀ known ∈ compare, ∀ value, known.CanGive value → discipline.Tests value) :
    Follows stop discipline.Course world (Generator.buildCompare place blocks slots held)
      (Generator.buildCompare place blocks slots compare) fun _ _ => True := by
  cases obeys with
  | none => exact .pure valid trivial
  | some obeys =>
      simp only [Generator.buildCompare, trimmed_eq obeys]
      refine (follows_loopPart blocks valid has spot).bind fun part middle later has => ?_
      have valid := IsCourse.arrives later
      refine (runs_loadSlots (fits_trimmed fits) stop middle valid has).bind
        fun values middle later _ => ?_
      have valid := IsCourse.arrives later
      have has := has.later later
      refine (follows_callback valid obeys _).ran.bind fun result middle later given => ?_
      obtain ⟨fits, run⟩ := given
      have tests := tests _ rfl result ⟨_, _, _, run⟩
      have valid := IsCourse.arrives later
      have has := has.later later
      refine (runs_branchOn blocks fits tests stop middle valid has).bind
        fun _ middle later _ => ?_
      exact follows_finish (IsCourse.arrives later) (has.later later)

/-- The increment of a loop stays on the course. -/
theorem follows_buildIncrement {held increment : Option Callback} {block : Option BlockRef}
    (blocks : Generator.LoopBlocks) (slots : List Operand)
    (valid : discipline.Course world world) (has : discipline.Has world place)
    (spot : ∀ block' ∈ block, discipline.Spot world (.operand (.block block')))
    (obeys : Option.Rel (discipline.Obeys stop) held increment) :
    Follows stop discipline.Course world
      (Generator.buildIncrement place blocks slots held block)
      (Generator.buildIncrement place blocks slots increment block) fun _ _ => True := by
  cases obeys with
  | none => exact .pure valid trivial
  | some obeys =>
      cases block with
      | none => exact .pure valid trivial
      | some block =>
          simp only [Generator.buildIncrement, trimmed_eq obeys]
          refine (follows_loopPart blocks valid has (spot block rfl)).bind
            fun part middle later has => ?_
          have valid := IsCourse.arrives later
          refine (follows_callback valid obeys _).bind fun _ middle later _ => ?_
          have valid := IsCourse.arrives later
          have has := has.later later
          refine (runs_leadTo _ stop middle valid has).bind fun _ middle later _ => ?_
          exact follows_finish (IsCourse.arrives later) (has.later later)

/-- The parts of a loop obey a discipline: they follow those of another one. -/
structure ObeyParts (discipline : Discipline) (stop : World → Bool)
    (held parts : Generator.LoopParts) : Prop where
  /-- The conditions follow each other. -/
  compare : Option.Rel (discipline.Obeys stop) held.compare parts.compare
  /-- What the condition can give may be branched on. -/
  tests : ∀ known ∈ parts.compare, ∀ value, known.CanGive value → discipline.Tests value
  /-- The increments follow each other. -/
  increment : Option.Rel (discipline.Obeys stop) held.increment parts.increment
  /-- The bodies follow each other. -/
  body : Option.Rel (discipline.Obeys stop) held.body parts.body

/-- All parts of a loop stay on the course. -/
theorem follows_buildParts {held parts : Generator.LoopParts} {blocks : Generator.LoopBlocks}
    {given : Value} {slots : List Operand} (valid : discipline.Course world world)
    (has : discipline.Has world place) (spots : discipline.SpotBlocks world given blocks)
    (fits : ∀ slot ∈ slots, discipline.Fits slot) (obey : discipline.ObeyParts stop held parts) :
    Follows stop discipline.Course world (Generator.buildParts place held blocks slots)
      (Generator.buildParts place parts blocks slots) fun _ _ => True := by
  refine (follows_buildBody blocks valid has spots.body fits obey.body).bind
    fun _ middle later _ => ?_
  have valid := IsCourse.arrives later
  have has := has.later later
  have spots := spots.later later
  refine (follows_buildCompare valid has spots.header fits obey.compare obey.tests).bind
    fun _ middle later _ => ?_
  exact follows_buildIncrement blocks slots (IsCourse.arrives later) (has.later later)
    (spots.later later).increment obey.increment

/-- Putting a block where a generator may be at the end stays on the course. -/
theorem follows_moveToEnd {exit : Value} (valid : discipline.Course world world)
    (serves : discipline.Serves reference) (spot : discipline.Spot world exit) :
    Follows stop discipline.Course world (Generator.moveToEnd reference exit)
      (Generator.moveToEnd reference exit) fun _ _ => True := by
  refine .get ?_
  split
  · exact follows_moveAfter _ valid serves spot
  · exact .throw valid

/-- Parts that follow each other are there or missing alike. -/
theorem ObeyParts.isEmpty {held parts : Generator.LoopParts}
    (obey : discipline.ObeyParts stop held parts) : held.isEmpty = parts.isEmpty := by
  have isNone {left right : Option Callback}
      (related : Option.Rel (discipline.Obeys stop) left right) :
      left.isNone = right.isNone := by
    cases related <;> rfl
  simp only [Generator.LoopParts.isEmpty, isNone obey.body, isNone obey.compare,
    isNone obey.increment]

/-- The blocks of a loop depend on its parts only in which of them are there. -/
theorem ObeyParts.loopBlocks {held parts : Generator.LoopParts}
    (obey : discipline.ObeyParts stop held parts) (reference : FunctionRef) (header : BlockRef)
    (given : Value) :
    Generator.loopBlocks reference header held given =
      Generator.loopBlocks reference header parts given := by
  obtain ⟨heldCompare, heldIncrement, heldBody⟩ := held
  obtain ⟨compare, increment, body⟩ := parts
  obtain ⟨obeysCompare, -, obeysIncrement, obeysBody⟩ := obey
  dsimp only at obeysCompare obeysIncrement obeysBody
  cases obeysCompare <;> cases obeysIncrement <;> cases obeysBody <;> rfl

/-- The values of the variables of a loop may be used if the value that gives them may be. -/
theorem fitsValue_loopValues {initial : Value} (fits : discipline.FitsValue initial) :
    ∀ value ∈ world.loopValues initial, discipline.FitsValue value := by
  intro value member
  unfold World.loopValues at member
  split at member
  · exact absurd member List.not_mem_nil
  · rcases row : world.row? initial with _ | items
    · rw [row, Option.getD_none, List.mem_singleton] at member
      exact member ▸ fits
    · rw [row, Option.getD_some] at member
      exact fits.items row value member

/-- **A loop** stays on the course. -/
theorem follows_loop {held parts : Generator.LoopParts} {initial : Value} (given : Value)
    (valid : discipline.Course world world) (has : discipline.Has world place)
    (fits : discipline.FitsValue initial) (obey : discipline.ObeyParts stop held parts) :
    Follows stop discipline.Course world (Generator.loop place initial held given)
      (Generator.loop place initial parts given) fun _ _ => True := by
  refine follows_unlessFinished valid ?_
  rw [obey.isEmpty]
  dsimp only
  split
  · exact .bind (.reject valid) fun _ _ _ => False.elim
  · refine .get (.get ?_)
    have serves := has.serves valid
    generalize (world.generator place).function = reference at serves
    refine (runs_createSlots (fitsValue_loopValues fits) stop world valid has).bind
      fun slots middle later fits => ?_
    have valid := IsCourse.arrives later
    have has := has.later later
    refine (follows_loopHeader valid serves has).bind fun header middle later spot => ?_
    have valid := IsCourse.arrives later
    have has := has.later later
    rw [obey.loopBlocks]
    refine (follows_loopBlocks parts given valid serves spot).bind
      fun blocks middle later spots => ?_
    have valid := IsCourse.arrives later
    have has := has.later later
    refine (follows_buildParts valid has spots fits obey).bind fun _ middle later _ => ?_
    have valid := IsCourse.arrives later
    have has := has.later later
    split
    · refine (follows_finish valid has).bind fun _ middle later _ => ?_
      exact .pure (IsCourse.arrives later) trivial
    next missing =>
      have spot := discipline.spot later (spots.exit (Bool.eq_false_of_not_eq_true missing))
      refine (follows_moveToEnd valid serves spot).bind fun _ middle later _ => ?_
      have valid := IsCourse.arrives later
      have spot := discipline.spot later spot
      refine (follows_moveTo place valid spot).bind fun _ middle later _ => ?_
      exact .pure (IsCourse.arrives later) trivial

/-! ## Calls -/

/-- What a fragment puts in the place of a call stays on the course. -/
theorem follows_expand {held interpret : Value → Callback} (fragment : FragmentId)
    (target : Value) (arguments : List Value) (valid : discipline.Course world world)
    (has : discipline.Has world place)
    (obeys : ∀ value, discipline.Obeys stop (held value) (interpret value)) :
    Follows stop discipline.Course world (Generator.expand held fragment target arguments)
      (Generator.expand interpret fragment target arguments) fun _ _ => True := by
  have called (body : Value) : Follows stop discipline.Course world
      ((held body).run (target :: arguments)) ((interpret body).run (target :: arguments))
      fun _ _ => True :=
    (follows_callback valid (obeys body) _).weaken fun _ _ _ _ => trivial
  refine .get ?_
  dsimp only
  split
  · exact called _
  · split
    · exact called _
    · refine (runs_texts (fun Effect _ => Build.leads_plain _) stop world valid has).bind
        fun name middle later _ => ?_
      exact .reject (IsCourse.arrives later)

/-- Calling what a name stands for stays on the course. -/
theorem follows_callName {held interpret : Value → Callback} {arguments : List Value}
    (name : Phrase) (valid : discipline.Course world world) (has : discipline.Has world place)
    (fits : ∀ argument ∈ arguments, discipline.FitsValue argument)
    (obeys : ∀ value, discipline.Obeys stop (held value) (interpret value)) :
    Follows stop discipline.Course world (Generator.callName held place name arguments)
      (Generator.callName interpret place name arguments) fun _ _ => True := by
  refine (runs_library stop world valid has).bind fun library middle later _ => .get ?_
  have valid := IsCourse.arrives later
  have has := has.later later
  split
  · exact follows_expand _ _ arguments valid has obeys
  · exact (runs_callFunction _ fits stop middle valid has).bind fun _ _ later _ =>
      .pure (IsCourse.arrives later) trivial
  · exact .pure valid trivial
  · exact .get (.reject valid)

/-- **A call** stays on the course. What is called may be a function of any library. -/
theorem follows_call {held interpret : Value → Callback} {callee : Value} {arguments : List Value}
    (valid : discipline.Course world world) (has : discipline.Has world place)
    (fitsCallee : ∀ operand, callee = .operand operand → discipline.Fits operand)
    (fits : ∀ argument ∈ arguments, discipline.FitsValue argument)
    (obeys : ∀ value, discipline.Obeys stop (held value) (interpret value)) :
    Follows stop discipline.Course world (Generator.call held place callee arguments)
      (Generator.call interpret place callee arguments) fun _ _ => True := by
  refine follows_unlessFinished valid ?_
  split
  · exact (runs_callFunction _ fits stop world valid has).bind fun _ _ later _ =>
      .pure (IsCourse.arrives later) trivial
  · exact runs_callOperand (fitsCallee _ rfl) fits stop world valid has
  · exact follows_callName _ valid has fits obeys
  · exact .reject valid

end Discipline

end StructuredIR
