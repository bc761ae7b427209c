import StructuredIR.Proofs.Sealing.Operations

/-! # Conditionals that keep order

The arms of a conditional may ask any free generator, the one of the conditional included.

* **`Callback.KeepsOrder`** is what is asked of callbacks: they keep order unless they fail.
* **`Generator.comesTo_meetingPlace`**: the place where the arms meet is vacant, and stays so while the
  second arm is built.
* **`Generator.comesTo_conditional`** and **`Generator.comesTo_openBlock`**: conditionals and blocks that
  callbacks build keep order. If they fail, nothing is behind a terminator all the same. -/

namespace StructuredIR

open Build (Leads ComesTo bind_eq_ok bind_eq_error get_eq_ok modify_eq_ok pure_eq_ok)
open Generator (blockValue allBut)

/-- **A callback keeps order** among free generators. If it fails, nothing is behind a terminator. -/
def Callback.KeepsOrder (free : GeneratorId → Bool) (callback : Callback) : Prop :=
  ∀ (world : World) (arguments : List Value), world.IsOrderly free →
    ComesTo (callback.run arguments) world (fun _ after => StructuredIR.KeepsOrder free world after)
      World.IsSealed

namespace Generator

variable {free : GeneratorId → Bool} {watched : BlockRef → Prop} {spared : GeneratorId → Prop}
  {start world : World} {place arm : GeneratorId} {reference : FunctionRef}

/-! ## Parts on new blocks -/

/-- **A part begins** with a new generator at a vacant block. -/
theorem comesTo_childAt {Result : Type} {block : BlockRef} {rest : GeneratorId → Build Result}
    {gives : Result → World → Prop} {fails : World → Prop} (since : KeepsOrder free start world)
    (isFree : free place = true) (inside : place < world.generators.length)
    (vacant : IsVacant free start.Has start world block)
    (built : ∀ opened, KeepsOrder free start opened →
      world.generators.length < opened.generators.length →
        ComesTo (rest world.generators.length) opened gives fails) :
    ComesTo (childAt place block >>= rest) world gives fails := by
  have joined : KeepsOrder free start (world.joined ⟨(world.generator place).function,
      blockValue block, blockValue block, (world.generator place).loopBlock,
      (world.generator place).loopExit, false⟩) :=
    since.join vacant rfl (since.orderly.stands place isFree inside)
  have rest := built _ joined (by rw [List.length_append]; exact Nat.lt_succ_self _)
  exact ⟨rest.gives, rest.fails⟩

variable (orderly : world.IsOrderly free) (isFree : free place = true)
  (inside : place < world.generators.length)
include orderly isFree inside

/-- **A block that a callback builds keeps order.** -/
theorem comesTo_openBlock (name : Value) {body : Option Callback}
    (keeps : ∀ callback ∈ body, callback.KeepsOrder free) :
    ComesTo (openBlock place name body) world (fun _ after => KeepsOrder free world after)
      World.IsSealed := by
  refine .unlessFinished (fun _ => orderly.keeps) fun _ => .get ?_
  have there := orderly.stands place isFree inside
  refine ComesTo.through (fun block after => KeepsOrder free world after ∧
    IsVacant free world.Has world after block) ⟨fun block after run => ?_, fun fault after run => ?_⟩ ?_
  · obtain ⟨rfl, adds⟩ := Function.appendBlock_ok there run
    exact ⟨(EndsNothing.of_addsBlock adds).keepsOrder orderly,
      (IsVacant.of_addsBlock orderly.keeps adds).1⟩
  · exact (EndsNothing.of_sameCode (Function.appendBlock_error run)).isSealed orderly.isSealed
  rintro block added ⟨since, vacant⟩
  refine comesTo_childAt since isFree (Nat.lt_of_lt_of_le inside since.generators) vacant
    fun opened since _ => ?_
  cases body with
  | none => exact .pure since
  | some body =>
      refine (keeps body rfl opened _ since.orderly).bind fun _ built kept => .pure ?_
      exact since.trans kept fun _ => id

/-- **An arm of a conditional keeps order**, and its generator has come up since. -/
theorem comesTo_buildArm (there : world.Hosts reference) (name : String) {body : Callback}
    (keeps : body.KeepsOrder free) :
    ComesTo (buildArm place reference name body) world
      (fun arm after => KeepsOrder free world after ∧ world.generators.length ≤ arm ∧
        arm < after.generators.length) World.IsSealed := by
  refine (orderly.keeps.comesTo_newBlock reference name there _).bind ?_
  rintro block added ⟨ends, vacant, -⟩
  have since := ends.keepsOrder orderly
  refine comesTo_childAt since isFree (Nat.lt_of_lt_of_le inside since.generators) vacant
    fun opened begun there => ?_
  refine (keeps opened _ begun.orderly).bind fun _ built kept => .pure ?_
  exact ⟨begun.trans kept fun _ => id, since.generators, Nat.lt_of_lt_of_le there kept.generators⟩

end Generator

/-! ## Where arms meet -/

/-- A block at which nothing but a generator is at work that has come up since is vacant once that
generator is finished. -/
theorem IsVacant.finish {free : GeneratorId → Bool} {watched : BlockRef → Prop}
    {start world : World} {arm : GeneratorId} {block : BlockRef}
    (vacant : IsVacant (allBut free arm) watched start world block)
    (anew : start.generators.length ≤ arm) (inside : arm < world.generators.length) :
    IsVacant free watched start
      (world.changeGenerator arm fun generator => { generator with isFinished := true }) block := by
  refine ⟨vacant.has, vacant.opened, vacant.unwatched, fun other works => ?_,
    fun other isFree early unfinished isAt => ?_⟩
  · rcases World.worksAt_changeGenerator inside works with ⟨-, unfinished, -⟩ | works
    · cases unfinished
    · exact vacant.unused other works
  · have different : other ≠ arm := Nat.ne_of_lt (Nat.lt_of_lt_of_le early anew)
    exact vacant.unvisited other (Generator.allBut_iff.mpr ⟨isFree, different⟩) early unfinished
      ((World.isAt_changeGenerator_of_ne different).mp isAt)

/-- The block at which a generator is at work that has come up since is vacant for all others. -/
theorem IsVacant.of_worksAt {free : GeneratorId → Bool} {start world : World} {arm : GeneratorId}
    {block : BlockRef} (since : KeepsOrder free start world)
    (anew : start.generators.length ≤ arm) (works : world.WorksAt free arm block) :
    IsVacant (allBut free arm) start.Has start world block where
  has := since.orderly.standing arm block works.isFree works.inside works.isAt
  opened := since.orderly.opened arm block works
  unwatched known :=
    Nat.lt_irrefl _ (Nat.lt_of_lt_of_le (since.comes arm block works known).inside anew)
  unused other working :=
    have both := World.worksAt_allBut.mp working
    both.2 (since.orderly.apart other arm block both.1 works)
  unvisited other isFree inside unfinished isAt :=
    have both := Generator.allBut_iff.mp isFree
    both.2 (since.alone other arm block both.1 inside unfinished isAt works).symm

namespace Generator

variable {free : GeneratorId → Bool} {start world : World} {place arm : GeneratorId}
  {reference : FunctionRef}

/-- **Where the arms meet**: it was given, or it is a block that is vacant once the arm is finished. -/
def MeetsAt (free : GeneratorId → Bool) (start : World) (arm : GeneratorId) (given exit : Value)
    (world : World) : Prop :=
  KeepsOrder free start world ∧ arm < world.generators.length ∧ (given.isGiven = false →
    ∃ block, exit = blockValue block ∧ IsVacant (allBut free arm) start.Has start world block)

variable (since : KeepsOrder free start world) (isFree : free arm = true)
  (inside : arm < world.generators.length)
include since isFree inside

/-- A generator is led on, which keeps order. -/
theorem comesTo_leadOn (target : Value) :
    ComesTo (leadTo arm target) world (fun _ after => KeepsOrder free world after ∧
      KeepsOrder free start after ∧ arm < after.generators.length) World.IsSealed :=
  (comesTo_leadTo since.orderly isFree inside target).imp
    (fun _ _ kept => ⟨kept, since.trans kept fun _ => id, Nat.lt_of_lt_of_le inside kept.generators⟩)
    fun _ kept => kept.orderly.isSealed

/-- An arm may be led to a new block. -/
theorem comesTo_meetAtNew (there : world.Hosts reference) (given : Value) :
    ComesTo (do
        let exit ← blockValue <$> Function.appendNamed reference "exit"
        leadTo arm exit
        return exit : Build Value) world (MeetsAt free start arm given) World.IsSealed := by
  refine ComesTo.through (fun exit after => EndsNothing world after ∧ ∃ block,
    exit = blockValue block ∧ IsVacant free start.Has start after block)
    ((since.comesTo_newBlock reference "exit" there _).map
      fun block _ both => ⟨both.1, block, rfl, both.2.1⟩) ?_
  rintro _ added ⟨ends, block, rfl, vacant⟩
  have further := ends.keepsOrder since.orderly
  refine (comesTo_leadOn (since.trans further fun _ => id) isFree
    (Nat.lt_of_lt_of_le inside further.generators) _).bind fun _ led both => .pure ?_
  exact ⟨both.2.1, both.2.2, fun _ => ⟨block, rfl,
    (vacant.later (Nat.le_trans since.generators further.generators) both.1).fewer vacant.unwatched⟩⟩

/-- **Where the arms meet is vacant**, once the first one is finished. -/
theorem comesTo_meetingPlace (anew : start.generators.length ≤ arm)
    (there : world.Hosts reference) (given : Value) :
    ComesTo (meetingPlace arm reference given) world (MeetsAt free start arm given)
      World.IsSealed := by
  refine .get ?_
  cases chosen : given.isGiven with
  | true =>
      refine (comesTo_leadOn since isFree inside given).bind fun _ led both => .pure ?_
      refine ⟨both.2.1, both.2.2, fun missing => ?_⟩
      rw [chosen] at missing
      cases missing
  | false =>
  cases isFinished : (world.generator arm).isFinished with
  | true => exact comesTo_meetAtNew since isFree inside there given
  | false =>
      refine ComesTo.through (fun own? middle => middle = world ∧
        ∃ own, own? = some own ∧ world.IsAt arm own) ?_ ?_
      · refine ((comesTo_position arm world).map fun own _ both =>
          ⟨both.1, own, rfl, both.2⟩).imp (fun _ _ => id) ?_
        rintro _ rfl
        exact since.orderly.isSealed
      rintro _ _ ⟨rfl, own, rfl, isAt⟩
      refine .get ?_
      dsimp only
      split
      · -- The arm is at work at its own block, so that is vacant for all others.
        exact .pure ⟨since, inside, fun _ =>
          ⟨own, rfl, .of_worksAt since anew ⟨isFree, inside, isFinished, isAt⟩⟩⟩
      · exact comesTo_meetAtNew since isFree inside there given

end Generator

/-! ## Conditionals -/

namespace Generator

variable {free : GeneratorId → Bool} {world : World} {place : GeneratorId}
  (orderly : world.IsOrderly free) (isFree : free place = true)
  (inside : place < world.generators.length)
include orderly isFree inside

/-- **The second arm keeps order**, if there is one. -/
theorem comesTo_buildElse {reference : FunctionRef} (there : world.Hosts reference)
    (arm : GeneratorId) (exit : Value) {body : Option Callback}
    (keeps : ∀ callback ∈ body, callback.KeepsOrder free) :
    ComesTo (buildElse place reference arm body exit) world
      (fun _ after => KeepsOrder free world after) World.IsSealed := by
  cases body with
  | none => exact .pure orderly.keeps
  | some body =>
      refine (comesTo_buildArm orderly isFree inside there "else" (keeps body rfl)).bind ?_
      rintro last built ⟨since, anew, present⟩
      have isFree := orderly.fresh last anew
      refine (comesTo_leadOn since isFree present exit).bind ?_
      rintro _ led ⟨-, since, present⟩
      refine ComesTo.through (fun _ after => KeepsOrder free world after) (.modify ?_) ?_
      · exact since.trans (since.orderly.finish isFree present) fun _ => id
      · exact fun _ _ kept => .get (.pure kept)

/-- **The branch ends the block** of the generator, which is finished or goes on where the arms meet. -/
theorem comesTo_endConditional (unfinished : (world.generator place).isFinished = false)
    {built : World} (since : KeepsOrder free world built) {given exit : Value}
    (meets : given.isGiven = false →
      ∃ block, exit = blockValue block ∧ IsVacant free world.Has world built block)
    (condition : Operand) (whenTrue whenFalse : Value) (arm : GeneratorId) :
    ComesTo (do
        unless given.isGiven do
          Function.moveAfter (world.generator place).function exit ((← get).generator arm).block
        let _ ← emit place (.branchIf condition whenTrue whenFalse)
        if given.isGiven then finish place else moveTo place exit : Build Unit) built
      (fun _ after => KeepsOrder free world after) World.IsSealed := by
  have fails {final : World} (kept : KeepsOrder free world final) := kept.orderly.isSealed
  split
  · exact (since.endHere orderly isFree inside unfinished rfl).imp (fun _ _ => id) fun _ => fails
  next missing =>
    obtain ⟨block, rfl, vacant⟩ := meets (Bool.eq_false_iff.mpr missing)
    refine .get ?_
    have moves := Function.endsNothing_moveAfter
      (since.routines _ (orderly.stands place isFree inside)) (blockValue block)
      (built.generator arm).block
    refine ((ComesTo.of_after moves).imp (fun _ _ => id) fun _ ends =>
      ends.isSealed since.orderly.isSealed).bind fun _ moved ends => ?_
    have moving := ends.keepsOrder since.orderly
    exact (KeepsOrder.moveOn (since.trans moving fun _ => id) orderly isFree inside unfinished rfl
      (vacant.later since.generators moving)).imp (fun _ _ => id) fun _ => fails

/-- **Conditionals keep order**, whatever their callbacks ask free generators for. -/
theorem comesTo_conditional (condition : Value) {thenBody elseBody : Option Callback} (given : Value)
    (whenTrue : ∀ callback ∈ thenBody, callback.KeepsOrder free)
    (whenFalse : ∀ callback ∈ elseBody, callback.KeepsOrder free) :
    ComesTo (conditional place condition thenBody elseBody given) world
      (fun _ after => KeepsOrder free world after) World.IsSealed := by
  refine comesTo_actUnlessFinished orderly fun unfinished => ?_
  cases thenBody with
  | none => exact .throw orderly.isSealed
  | some thenBody =>
  refine .get ?_
  have there := orderly.stands place isFree inside
  have tests : ComesTo (coerce place condition (some conditionType)) world
      (fun _ after => SameCode world after) (SameCode world) :=
    .of_leads (leads_coerce place condition _)
  refine (tests.imp (fun _ _ => id) fun _ same =>
    (EndsNothing.of_sameCode same).isSealed orderly.isSealed).bind fun tested coerced same => ?_
  have first := (EndsNothing.of_sameCode same).keepsOrder orderly
  refine (comesTo_buildArm first.orderly isFree (Nat.lt_of_lt_of_le inside first.generators)
    (first.routines _ there) "then" (whenTrue thenBody rfl)).bind ?_
  rintro arm built ⟨further, later, armInside⟩
  have armFree := first.orderly.fresh arm later
  have anew := Nat.le_trans first.generators later
  have since := first.trans further fun _ => id
  refine (comesTo_meetingPlace since armFree armInside anew (since.routines _ there) given).bind ?_
  rintro exit met ⟨since, armInside, vacant⟩
  refine ComesTo.through (fun _ after => KeepsOrder free world after ∧ (given.isGiven = false →
    ∃ block, exit = blockValue block ∧ IsVacant free world.Has world after block))
    (.modify ⟨since.trans (since.orderly.finish armFree armInside) fun _ => id, fun missing => ?_⟩) ?_
  · obtain ⟨block, rfl, meets⟩ := vacant missing
    exact ⟨block, rfl, meets.finish anew armInside⟩
  rintro _ ended ⟨since, vacant⟩
  -- The second arm may ask the generator of the conditional too, but nothing goes where the arms meet.
  refine .get ?_
  have present := Nat.lt_of_lt_of_le inside since.generators
  refine (comesTo_buildElse since.orderly isFree present (since.routines _ there) arm exit
    whenFalse).bind ?_
  rintro ⟨target, last⟩ built kept
  refine comesTo_endConditional orderly isFree inside unfinished (since.trans kept fun _ => id)
    (fun missing => ?_) tested _ target last
  obtain ⟨block, same, meets⟩ := vacant missing
  exact ⟨block, same, meets.later since.generators kept⟩

end Generator

end StructuredIR
