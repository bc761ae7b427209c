import StructuredIR.Proofs.Sealing.Orders

/-! # Operations that keep order

What the operations of a free generator come to that call nothing back: order is kept, whether or not
they fail.

* **`Build.ComesTo`** says what a step comes to in a world, where it succeeds and where it fails.
* **`KeepsOrder.endBlock`**: a generator that ends its block and then is finished, or goes on at a vacant
  block, keeps order.
* **`Function.endsNothing_setUpReturn`**: setting up shared returns ends only the return block.
* **`IsVacant.of_addsBlock`**: a new block is vacant. -/

namespace StructuredIR

open Build (Leads bind_eq_ok bind_eq_error get_eq_ok modify_eq_ok pure_eq_ok)
open Generator (blockValue allBut)

/-! ## What steps come to -/

namespace Build

variable {Result Next : Type} {step : Build Result} {world : World}
  {gives : Result → World → Prop} {fails : World → Prop}

/-- **What a step comes to** in a world: what holds if it succeeds, and what holds if it fails. -/
structure ComesTo (step : Build Result) (world : World) (gives : Result → World → Prop)
    (fails : World → Prop) : Prop where
  /-- What holds if it succeeds. -/
  gives (value : Result) (final : World) : step world = .ok value final → gives value final
  /-- What holds if it fails. -/
  fails (fault : Fault) (final : World) : step world = .error fault final → fails final

namespace ComesTo

/-- Giving a value changes nothing. -/
theorem pure {value : Result} (holds : gives value world) :
    ComesTo (pure value) world gives fails :=
  ⟨fun _ _ run => by
    obtain ⟨rfl, rfl⟩ := pure_eq_ok.mp run
    exact holds, nofun⟩

/-- Failing changes nothing. -/
theorem throw {fault : Fault} (holds : fails world) :
    ComesTo (throw fault : Build Result) world gives fails :=
  ⟨nofun, fun _ _ run => by
    cases run
    exact holds⟩

/-- A change of the world succeeds. -/
theorem modify {update : World → World} {gives : PUnit → World → Prop}
    (holds : gives ⟨⟩ (update world)) : ComesTo (modify update) world gives fails :=
  ⟨fun _ _ run => by
    obtain rfl := modify_eq_ok.mp run
    exact holds, nofun⟩

/-- Looking at the world gives that world. -/
theorem get {next : World → Build Result} (rest : ComesTo (next world) world gives fails) :
    ComesTo (get >>= next) world gives fails :=
  ⟨rest.gives, rest.fails⟩

/-- What is led to holds in either case. -/
theorem of_leads {Effect : World → World → Prop} (leads : Leads Effect step) :
    ComesTo step world (fun _ after => Effect world after) (Effect world) :=
  ⟨fun _ _ => leads.of_ok, fun _ _ => leads.of_error⟩

/-- What holds of the world that is left behind holds in either case. -/
theorem of_after {holds : World → Prop} (left : holds (step.after world)) :
    ComesTo step world (fun _ after => holds after) holds :=
  ⟨fun _ _ run => after_of_ok run ▸ left, fun _ _ run => after_of_error run ▸ left⟩

/-- What holds in either case holds of the world that is left behind. -/
theorem after {holds : World → Prop} (comes : ComesTo step world (fun _ after => holds after) holds) :
    holds (step.after world) := by
  unfold Build.after
  cases run : step world with
  | ok value final => exact comes.gives value final run
  | error fault final => exact comes.fails fault final run

/-- Less may be said. -/
theorem imp {wider : Result → World → Prop} {further : World → Prop}
    (comes : ComesTo step world gives fails)
    (given : ∀ value final, gives value final → wider value final)
    (failed : ∀ final, fails final → further final) : ComesTo step world wider further :=
  ⟨fun value final run => given value final (comes.gives value final run),
    fun fault final run => failed final (comes.fails fault final run)⟩

/-- **Two steps one after the other.** -/
theorem bind {next : Result → Build Next} {goal : Next → World → Prop}
    (first : ComesTo step world gives fails)
    (second : ∀ value middle, gives value middle → ComesTo (next value) middle goal fails) :
    ComesTo (step >>= next) world goal fails := by
  refine ⟨fun value final run => ?_, fun fault final run => ?_⟩
  · obtain ⟨given, middle, stepping, run⟩ := bind_eq_ok.mp run
    exact (second given middle (first.gives given middle stepping)).gives value final run
  · rcases bind_eq_error.mp run with failed | ⟨given, middle, stepping, run⟩
    · exact first.fails fault final failed
    · exact (second given middle (first.gives given middle stepping)).fails fault final run

/-- Two steps one after the other, with what holds between them. -/
theorem through {next : Result → Build Next} {goal : Next → World → Prop}
    (gives : Result → World → Prop) (first : ComesTo step world gives fails)
    (second : ∀ value middle, gives value middle → ComesTo (next value) middle goal fails) :
    ComesTo (step >>= next) world goal fails :=
  first.bind second

/-- What comes behind a rejection is never done. -/
theorem rejectThen {cause : Cause} {next : Result → Build Next} {goal : Next → World → Prop}
    (holds : fails world) : ComesTo (reject cause >>= next) world goal fails :=
  ⟨nofun, fun _ _ run => by
    cases run
    exact holds⟩

/-- A step whose result is changed. -/
theorem map {change : Result → Next} {goal : Next → World → Prop}
    (comes : ComesTo step world gives fails)
    (given : ∀ value final, gives value final → goal (change value) final) :
    ComesTo (change <$> step) world goal fails := by
  rw [map_eq_pure_bind]
  exact comes.bind fun value final holds => pure (given value final holds)

/-- What is done unless a generator is finished. -/
theorem unlessFinished {place : GeneratorId} {action : Build Value}
    {gives : Value → World → Prop}
    (finished : (world.generator place).isFinished = true → gives .none world)
    (unfinished : (world.generator place).isFinished = false → ComesTo action world gives fails) :
    ComesTo (Generator.unlessFinished place action) world gives fails := by
  cases isFinished : (world.generator place).isFinished with
  | true =>
      have same : Generator.unlessFinished place action world = .ok .none world :=
        Generator.unlessFinished_of_isFinished isFinished
      refine ⟨fun value final run => ?_, fun fault final run => ?_⟩
      · rw [same] at run
        cases run
        exact finished isFinished
      · rw [same] at run
        cases run
  | false =>
      have same : Generator.unlessFinished place action world = action world :=
        Generator.unlessFinished_of_not_isFinished isFinished
      refine ⟨fun value final run => ?_, fun fault final run => ?_⟩
      · exact (unfinished isFinished).gives value final (same ▸ run)
      · exact (unfinished isFinished).fails fault final (same ▸ run)

end ComesTo

end Build

open Build (ComesTo)

/-! ## Vacant blocks -/

namespace IsVacant

variable {free : GeneratorId → Bool} {watched further : BlockRef → Prop} {start world after : World}
  {block other : BlockRef} {place : GeneratorId}

/-- A block is vacant for fewer generators. -/
theorem fewer (vacant : IsVacant free watched start world block) (unwatched : ¬ further block) :
    IsVacant (allBut free place) further start world block where
  has := vacant.has
  opened := vacant.opened
  unwatched := unwatched
  unused other works := vacant.unused other (World.worksAt_allBut.mp works).1
  unvisited other isFree := vacant.unvisited other (Generator.allBut_iff.mp isFree).1

/-- A block stays vacant when another one is ended. -/
theorem append (vacant : IsVacant free watched start world block) {made : Instruction}
    (changes : ChangesRow other (· ++ [made]) world after) (different : block ≠ other) :
    IsVacant free watched start after block where
  has := by
    rw [World.Has, changes.blockCount]
    exact vacant.has
  opened := by
    rw [World.isTerminated_eq, changes.row, if_neg fun both => different both.1]
    exact vacant.opened
  unwatched := vacant.unwatched
  unused place works := vacant.unused place ((World.worksAt_congr changes.generators).mp works)
  unvisited place isFree inside unfinished isAt :=
    vacant.unvisited place isFree inside unfinished ((World.isAt_congr changes.generators).mp isAt)

/-- Another block stays vacant when a generator comes up. -/
theorem joined (vacant : IsVacant free watched start world block) {record : Generator}
    (isAt : record.block = blockValue other) (different : block ≠ other) :
    IsVacant free watched start (world.joined record) block where
  has := vacant.has
  opened := vacant.opened
  unwatched := vacant.unwatched
  unused place works := by
    rcases World.worksAt_joined works with ⟨-, stood⟩ | works
    · cases isAt.symm.trans stood
      exact different rfl
    · exact vacant.unused place works
  unvisited place isFree inside unfinished stood := by
    by_cases anew : place = world.generators.length
    · rw [anew, World.IsAt, World.generator_joined_self, isAt] at stood
      cases stood
      exact different rfl
    · exact vacant.unvisited place isFree inside unfinished ((World.isAt_joined_of_ne anew).mp stood)

/-- **A new block is vacant**, and was not there. -/
theorem of_addsBlock {spared : GeneratorId → Prop} {symbol : SymbolRef}
    (since : OrderSince free watched spared start world) (adds : AddsBlock symbol world after) :
    IsVacant free watched start after ⟨symbol, world.blockCount symbol⟩ ∧
      ¬ start.Has ⟨symbol, world.blockCount symbol⟩ := by
  have missing : ¬ world.Has ⟨symbol, world.blockCount symbol⟩ := Nat.lt_irrefl _
  have unvisited (place : GeneratorId) (isFree : free place = true)
      (inside : place < world.generators.length) :
      ¬ after.IsAt place ⟨symbol, world.blockCount symbol⟩ := by
    rw [World.IsAt, World.generator, adds.generators]
    exact fun isAt => missing (since.orderly.standing place _ isFree inside isAt)
  have isNew : ¬ start.Has ⟨symbol, world.blockCount symbol⟩ := fun known => missing (since.has known)
  refine ⟨⟨?_, ?_, fun watch => isNew (since.known _ watch), fun place works => ?_,
    fun place isFree inside _ => ?_⟩, isNew⟩
  · rw [World.Has, adds.blockCount, if_pos rfl]
    exact Nat.lt_succ_self _
  · rw [World.isTerminated_eq, adds.row, World.row_of_blockCount_le _ (Nat.le_refl _)]
    rfl
  · exact unvisited place works.isFree (adds.generators ▸ works.inside) works.isAt
  · exact unvisited place isFree (Nat.lt_of_lt_of_le inside since.generators)

end IsVacant

/-! ## Ending blocks -/

section

variable {free : GeneratorId → Bool} {start world : World} {place : GeneratorId}

/-- **A generator that ends its block** keeps order, once it is finished or goes on at a vacant block. -/
theorem KeepsOrder.endBlock (since : KeepsOrder free start world) (begun : start.IsOrderly free)
    (isFree : free place = true) (inside : place < start.generators.length)
    (unfinished : (start.generator place).isFinished = false) {block : BlockRef}
    (isAt : world.IsAt place block) {operation : Operation} (ends : operation.isTerminator = true) :
    ComesTo (Build.emit block operation) world
      (fun _ after =>
        KeepsOrder free start
            (after.changeGenerator place fun generator => { generator with isFinished := true }) ∧
          ∀ exit, IsVacant free start.Has start world exit →
            KeepsOrder free start
              (after.changeGenerator place fun generator =>
                { generator with block := blockValue exit }))
      (SameCode world) := by
  refine ⟨fun value after run => ?_, fun fault after run => Build.emit_error run⟩
  obtain ⟨made, -, -, -, opened, changes⟩ := Build.emit_ok run
  have present := Nat.lt_of_lt_of_le inside since.generators
  have same := World.generator_congr changes.generators place
  have finishes := since.mayFinish isFree inside unfinished
  -- The block is ended while the generator is not free; then it is free again, finished or elsewhere.
  have withdrawn := (since.withdraw inside).append changes (opened ends)
    (fun watch => watch.2 (since.stays place block isFree inside isAt watch.1))
    fun other => finishes.alone block other isAt
  have left (there : BlockRef) (other : GeneratorId) (stood : start.IsAt place there)
      (works : after.WorksAt (allBut free place) other there) : False :=
    since.deserted begun isFree inside unfinished stood
      ((World.worksAt_congr changes.generators).mp works)
  refine ⟨withdrawn.freeAgain (fun _ => id) isFree inside unfinished left ?_, fun exit vacant =>
    withdrawn.freeAgain (fun _ => id) isFree inside unfinished left ?_⟩
  · rw [same]
    exact finishes.append rfl changes
  · have different : exit ≠ block := by
      rintro rfl
      exact vacant.unvisited place isFree inside unfinished isAt
    rw [same]
    exact ((vacant.fewer vacant.unwatched).append changes different).mayProceed vacant.unwatched
      (finishes.append rfl changes).stands rfl

/-- **A generator that is marked as finished** keeps order. -/
theorem World.IsOrderly.finish (orderly : world.IsOrderly free) (isFree : free place = true)
    (inside : place < world.generators.length) :
    KeepsOrder free world
      (world.changeGenerator place fun generator => { generator with isFinished := true }) := by
  cases isFinished : (world.generator place).isFinished with
  | true =>
      rw [Generator.changeGenerator_of_isFinished isFinished]
      exact orderly.keeps
  | false =>
      exact (orderly.keeps.withdraw inside).freeAgain (fun _ => id) isFree inside isFinished
        (fun _ _ stood => orderly.keeps.deserted orderly isFree inside isFinished stood)
        (orderly.keeps.mayFinish isFree inside isFinished)

end

/-! ## Straight-line operations -/

section

variable {free : GeneratorId → Bool} {world : World} {place : GeneratorId}
  (orderly : world.IsOrderly free) (isFree : free place = true)
  (inside : place < world.generators.length)
include orderly isFree inside

/-- What a generator emits where it is ends no block, if it is not finished. -/
theorem Emits.endsNothing {after : World} (emits : Emits place world after)
    (unfinished : (world.generator place).isFinished = false) : EndsNothing world after :=
  .of_emits emits fun block isAt => orderly.opened place block ⟨isFree, inside, unfinished, isAt⟩

/-- **Straight-line operations keep order**, and do nothing if the generator is finished. -/
theorem World.IsOrderly.straight {Result : Type} {action : Build Result}
    (emits : Leads (Emits place) action) (idles : Leads (Idles place) action) :
    KeepsOrder free world (action.after world) := by
  cases isFinished : (world.generator place).isFinished with
  | true => exact (EndsNothing.of_sameCode (idles world isFinished)).keepsOrder orderly
  | false => exact ((emits world).endsNothing orderly isFree inside isFinished).keepsOrder orderly

end

/-! ## Going on -/

/-- Asking where a generator is tells the block at which it is, and changes nothing. -/
theorem Generator.comesTo_position (place : GeneratorId) (world : World) :
    ComesTo (Generator.position place) world
      (fun block after => after = world ∧ world.IsAt place block) (· = world) := by
  refine ⟨fun block after run => ?_, fun fault after run => ?_⟩
  · obtain ⟨isAt, rfl⟩ := Generator.position_ok run
    exact ⟨rfl, isAt⟩
  · rcases bind_eq_error.mp run with failed | ⟨seen, _, looked, run⟩
    · cases failed
    obtain ⟨rfl, rfl⟩ := get_eq_ok.mp looked
    cases known : (world.generator place).block.block? with
    | none =>
        rw [known] at run
        cases run
        rfl
    | some block =>
        rw [known] at run
        cases run

/-- What is done at the block of a generator. -/
theorem Generator.comesTo_there {place : GeneratorId} {world : World} {Next : Type}
    {next : BlockRef → Build Next} {gives : Next → World → Prop} {fails : World → Prop}
    (missing : fails world)
    (rest : ∀ block, world.IsAt place block → ComesTo (next block) world gives fails) :
    ComesTo (Generator.position place >>= next) world gives fails := by
  refine ((Generator.comesTo_position place world).imp (fun _ _ => id) ?_).bind ?_
  · rintro _ rfl
    exact missing
  · rintro block _ ⟨rfl, isAt⟩
    exact rest block isAt

section

variable {free : GeneratorId → Bool} {start world : World} {place : GeneratorId}
  {operation : Operation}

/-- A generator that ends the block at which it is. -/
theorem KeepsOrder.emitEnd (since : KeepsOrder free start world) (begun : start.IsOrderly free)
    (isFree : free place = true) (inside : place < start.generators.length)
    (unfinished : (start.generator place).isFinished = false)
    (ends : operation.isTerminator = true) :
    ComesTo (Generator.emit place operation) world
      (fun _ after =>
        KeepsOrder free start
            (after.changeGenerator place fun generator => { generator with isFinished := true }) ∧
          ∀ exit, IsVacant free start.Has start world exit →
            KeepsOrder free start
              (after.changeGenerator place fun generator =>
                { generator with block := blockValue exit }))
      (KeepsOrder free start) :=
  Generator.comesTo_there since fun _ isAt =>
    (since.endBlock begun isFree inside unfinished isAt ends).imp (fun _ _ => id) fun _ same =>
      since.trans ((EndsNothing.of_sameCode same).keepsOrder since.orderly) fun _ => id

/-- **A generator ends its block and is finished.** -/
theorem KeepsOrder.endHere (since : KeepsOrder free start world) (begun : start.IsOrderly free)
    (isFree : free place = true) (inside : place < start.generators.length)
    (unfinished : (start.generator place).isFinished = false)
    (ends : operation.isTerminator = true) :
    ComesTo (do
        let _ ← Generator.emit place operation
        Generator.finish place : Build Unit) world
      (fun _ after => KeepsOrder free start after) (KeepsOrder free start) :=
  (since.emitEnd begun isFree inside unfinished ends).bind fun _ _ both => .modify both.1

/-- **A generator ends its block and goes on** at a vacant one. -/
theorem KeepsOrder.moveOn (since : KeepsOrder free start world) (begun : start.IsOrderly free)
    (isFree : free place = true) (inside : place < start.generators.length)
    (unfinished : (start.generator place).isFinished = false)
    (ends : operation.isTerminator = true) {exit : BlockRef}
    (vacant : IsVacant free start.Has start world exit) :
    ComesTo (do
        let _ ← Generator.emit place operation
        Generator.moveTo place (blockValue exit) : Build Unit) world
      (fun _ after => KeepsOrder free start after) (KeepsOrder free start) :=
  (since.emitEnd begun isFree inside unfinished ends).bind fun _ _ both =>
    .modify (both.2 exit vacant)

end

/-- **A new block** is vacant. -/
theorem OrderSince.comesTo_newBlock {free : GeneratorId → Bool} {watched : BlockRef → Prop}
    {spared : GeneratorId → Prop} {start world : World}
    (since : OrderSince free watched spared start world) (reference : FunctionRef) (name : String)
    (there : world.Hosts reference) (fails : World → Prop) :
    ComesTo (Function.appendNamed reference name) world
      (fun block after => EndsNothing world after ∧ IsVacant free watched start after block ∧
        ¬ world.Has block) fails := by
  obtain ⟨added, adding, adds⟩ := Function.appendNamed_run reference name world there
  refine ⟨fun block after run => ?_, fun fault after run => ?_⟩
  · rw [adding] at run
    cases run
    exact ⟨.of_addsBlock adds, (IsVacant.of_addsBlock since adds).1, Nat.lt_irrefl _⟩
  · rw [adding] at run
    cases run

/-! ## Branches -/

namespace Generator

variable {free : GeneratorId → Bool} {world : World} {place : GeneratorId}

section

variable (orderly : world.IsOrderly free) (isFree : free place = true)
  (inside : place < world.generators.length)
include orderly isFree inside

/-- **A generator that is not finished ends its block and is finished.** -/
theorem comesTo_endBlock (unfinished : (world.generator place).isFinished = false) {block : BlockRef}
    (isAt : world.IsAt place block) {operation : Operation} (ends : operation.isTerminator = true) :
    ComesTo (do
        let _ ← Build.emit block operation
        finish place : Build Unit) world
      (fun _ after => KeepsOrder free world after) (KeepsOrder free world) := by
  have since := orderly.keeps
  refine ((since.endBlock orderly isFree inside unfinished isAt ends).imp (fun _ _ => id)
    fun final same => ?_).bind fun _ middle both => .modify both.1
  exact (EndsNothing.of_sameCode same).keepsOrder orderly

/-- A branch that finishes a generator keeps order. -/
theorem comesTo_branchTo (unfinished : (world.generator place).isFinished = false) (target : Value) :
    ComesTo (branchTo place target) world (fun _ after => KeepsOrder free world after)
      (KeepsOrder free world) :=
  .get (orderly.keeps.endHere orderly isFree inside unfinished rfl)

/-- A generator that is led somewhere keeps order. -/
theorem comesTo_leadTo (target : Value) :
    ComesTo (leadTo place target) world (fun _ after => KeepsOrder free world after)
      (KeepsOrder free world) := by
  refine .get ?_
  cases isFinished : (world.generator place).isFinished with
  | true => exact .pure orderly.keeps
  | false => exact comesTo_branchTo orderly isFree inside isFinished target

omit isFree inside in
/-- What keeps order unless a generator is finished keeps order. -/
theorem comesTo_actUnlessFinished {action : Build Unit} {fails : World → Prop}
    (keeps : (world.generator place).isFinished = false →
      ComesTo action world (fun _ after => KeepsOrder free world after) fails) :
    ComesTo (actUnlessFinished place action) world (fun _ after => KeepsOrder free world after)
      fails :=
  .unlessFinished (fun _ => orderly.keeps) fun unfinished =>
    (keeps unfinished).bind fun _ _ kept => .pure kept

/-- **Branches keep order.** -/
theorem comesTo_branch (target : Value) :
    ComesTo (branch place target) world (fun _ after => KeepsOrder free world after)
      (KeepsOrder free world) :=
  comesTo_actUnlessFinished orderly fun unfinished =>
    comesTo_branchTo orderly isFree inside unfinished target

/-- Leaving a loop keeps order. -/
theorem comesTo_leaveLoop :
    ComesTo (leaveLoop place) world (fun _ after => KeepsOrder free world after)
      (KeepsOrder free world) := by
  refine comesTo_actUnlessFinished orderly fun unfinished => .get ?_
  split
  · exact .throw orderly.keeps
  · exact comesTo_branchTo orderly isFree inside unfinished _

/-- Going on to the next turn keeps order. -/
theorem comesTo_nextTurn :
    ComesTo (nextTurn place) world (fun _ after => KeepsOrder free world after)
      (KeepsOrder free world) := by
  refine comesTo_actUnlessFinished orderly fun unfinished => .get ?_
  split
  · exact .throw orderly.keeps
  · exact comesTo_branchTo orderly isFree inside unfinished _

end

end Generator

/-! ## Shared returns -/

namespace Function

/-- The slot for the value to return ends no block. -/
theorem endsNothing_createSlot (reference : FunctionRef) (result : IRType) :
    Leads EndsNothing (createSlot reference result) := by
  refine Leads.get.bind fun world => ?_
  split
  · exact Leads.throw _
  next entry _ =>
    have first : Leads EndsNothing (Build.emitFirst entry "retval" (.alloca result none)) := by
      intro world
      rcases Build.emitFirst_cases entry "retval" (.alloca result none) world with same | changes
      · exact .of_sameCode same
      · obtain ⟨made, does, changes⟩ := changes
        exact .of_prepend changes (by rw [does]; rfl)
    refine first.bind fun slot => Leads.bind (Leads.modify fun world => ?_) fun _ => Leads.pure _
    exact .of_changeFunction world reference fun _ => rfl

/-- Moving a block ends none. -/
theorem endsNothing_moveAfter {reference : FunctionRef} {world : World}
    (there : world.Hosts reference) (moved anchor : Value) :
    EndsNothing world ((moveAfter reference moved anchor).after world) :=
  have ⟨_, reorders, _⟩ := moveAfter_reorders reference moved anchor rfl there
  .of_reorders reorders

/-- What comes behind a new block, of which the first instruction is straight. -/
theorem endsNothing_emit {world middle : World} {block : BlockRef} (ends : EndsNothing world middle)
    (isNew : ¬ world.Has block) (opened : middle.isTerminated block = false) (operation : Operation) :
    EndsNothing world ((Build.emit block operation).after middle) ∧
      (operation.isTerminator = false →
        ((Build.emit block operation).after middle).isTerminated block = false) := by
  rcases Build.emit_cases block operation middle with same | ⟨made, does, changes⟩
  · refine ⟨IsEffect.trans ends (.of_sameCode same), fun _ => ?_⟩
    rw [World.isTerminated_eq, same.row]
    exact opened
  · refine ⟨ends.append changes isNew opened, fun straight => ?_⟩
    rw [World.isTerminated_eq, changes.row]
    split
    · rw [List.any_append, ← World.isTerminated_eq, opened, Bool.false_or, List.any_cons, does,
        straight]
      rfl
    · exact opened

/-- A block that returns what a slot holds, or nothing, ends no block that was there. -/
theorem comesTo_addExit {world slotted : World} {reference : FunctionRef}
    (ends : EndsNothing world slotted) (there : slotted.Hosts reference)
    (slot? : Option Operand) :
    ComesTo (do
        let exit ← appendNamed reference "return"
        modify (·.changeFunction reference fun function => { function with exit := some exit })
        match slot? with
        | none => let _ ← Build.emit exit .retVoid
        | some slot =>
            let value ← Build.emit exit (.load slot)
            let _ ← Build.emit exit (.ret value)
        return exit : Build BlockRef) slotted
      (fun _ after => EndsNothing world after) (EndsNothing world) := by
  obtain ⟨added, adding, adds⟩ := appendNamed_run reference "return" slotted there
  refine ComesTo.through (fun exit after => EndsNothing world after ∧ ¬ world.Has exit ∧
    after.isTerminated exit = false) ⟨fun exit after run => ?_, fun fault after run => ?_⟩ ?_
  · rw [adding] at run
    cases run
    refine ⟨IsEffect.trans ends (.of_addsBlock adds), fun known => ?_, ?_⟩
    · exact Nat.lt_irrefl _ (Nat.lt_of_lt_of_le known (ends.blockCount _))
    · rw [World.isTerminated_eq, adds.row, World.row_of_blockCount_le _ (Nat.le_refl _)]
      rfl
  · rw [adding] at run
    cases run
  rintro exit appended ⟨ends, isNew, opened⟩
  refine ComesTo.through (fun _ after => EndsNothing world after ∧
    after.isTerminated exit = false) (.modify ⟨?_, ?_⟩) ?_
  · exact IsEffect.trans ends (.of_changeFunction appended reference fun _ => rfl)
  · rw [World.isTerminated_eq, World.row_changeFunction]
    exact opened
  rintro _ recorded ⟨ends, opened⟩
  cases slot? with
  | none =>
      exact (ComesTo.of_after (endsNothing_emit ends isNew opened .retVoid).1).bind
        fun _ _ kept => .pure kept
  | some slot =>
      obtain ⟨still, opened⟩ := endsNothing_emit ends isNew opened (.load slot)
      have loads : ComesTo (Build.emit exit (.load slot)) recorded
          (fun _ after => EndsNothing world after ∧ after.isTerminated exit = false) _ :=
        .of_after ⟨still, opened rfl⟩
      refine (loads.imp (fun _ _ => id) fun _ => And.left).bind ?_
      · rintro value loaded ⟨ends, opened⟩
        exact (ComesTo.of_after (endsNothing_emit ends isNew opened (.ret value)).1).bind
          fun _ _ kept => .pure kept

/-- **Setting up shared returns ends no block that was there.** -/
theorem endsNothing_setUpReturn {world : World} {reference : FunctionRef}
    (there : world.Hosts reference) :
    EndsNothing world ((setUpReturn reference).after world) := by
  suffices comes : ComesTo (setUpReturn reference) world (fun _ after => EndsNothing world after)
      (EndsNothing world) from comes.after
  -- The return block is laid once. What ends it ends no block that was there.
  refine .get ?_
  split
  · exact .pure (IsEffect.refl world)
  refine .get ?_
  dsimp only
  split
  · exact comesTo_addExit (IsEffect.refl world) there none
  · have slots : ComesTo (some <$> createSlot reference (world.routineOf reference).result) world
        (fun _ after => EndsNothing world after) (EndsNothing world) :=
      (ComesTo.of_leads (endsNothing_createSlot reference _)).map fun _ _ => id
    exact slots.bind fun slot? slotted ends => comesTo_addExit ends (ends.routines _ there) slot?

end Function

/-! ## Steps before a block is ended -/

section

variable {Result Next : Type} {free : GeneratorId → Bool} {world middle : World}
  {place : GeneratorId} {step : Build Result}

/-- Generators are what they were where no block is ended. -/
theorem EndsNothing.generator (ends : EndsNothing world middle) (place : GeneratorId) :
    middle.generator place = world.generator place :=
  World.generator_congr ends.generators place

/-- What keeps order behind a step that ends no block keeps order. -/
theorem EndsNothing.bind {next : Result → Build Next} (orderly : world.IsOrderly free)
    (ends : EndsNothing world (step.after world))
    (rest : ∀ value middle, EndsNothing world middle → middle.IsOrderly free →
      ComesTo (next value) middle (fun _ after => KeepsOrder free middle after)
        (KeepsOrder free middle)) :
    ComesTo (step >>= next) world (fun _ after => KeepsOrder free world after)
      (KeepsOrder free world) := by
  refine ComesTo.through (fun _ after => EndsNothing world after)
    ⟨fun _ _ run => Build.after_of_ok run ▸ ends, fun _ _ run => ?_⟩ fun value middle ends => ?_
  · exact (Build.after_of_error run ▸ ends).keepsOrder orderly
  · have kept := ends.keepsOrder orderly
    exact (rest value middle ends kept.orderly).imp (fun _ _ later => kept.trans later fun _ => id)
      fun _ later => kept.trans later fun _ => id

end

/-! ## Returns -/

namespace Generator

variable {free : GeneratorId → Bool} {world : World} {place : GeneratorId}
  (orderly : world.IsOrderly free) (isFree : free place = true)
  (inside : place < world.generators.length)
include orderly isFree inside

/-- The routine of the function of a generator that is free is set up for returning. -/
theorem endsNothing_setUpReturn :
    EndsNothing world ((Function.setUpReturn (world.generator place).function).after world) :=
  Function.endsNothing_setUpReturn (orderly.stands place isFree inside)

/-- Storing the value to return ends no block. -/
theorem endsNothing_storeResult (unfinished : (world.generator place).isFinished = false)
    (value : Value) : EndsNothing world ((storeResult place value).after world) :=
  Emits.endsNothing orderly isFree inside
    ((leads_storeResult place value : Leads (Emits place) _) world) unfinished

/-- **Returns through the return block keep order.** -/
theorem comesTo_returnShared (value : Value) :
    ComesTo (returnShared place value) world (fun _ after => KeepsOrder free world after)
      (KeepsOrder free world) := by
  refine comesTo_actUnlessFinished orderly fun unfinished => .get ?_
  dsimp only
  split
  · exact orderly.keeps.endHere orderly isFree inside unfinished rfl
  · refine .get ?_
    refine (endsNothing_setUpReturn orderly isFree inside).bind orderly
      fun exit ready ends orderly => ?_
    have inside : place < ready.generators.length := ends.generators ▸ inside
    have unfinished := ends.generator place ▸ unfinished
    refine (endsNothing_storeResult orderly isFree inside unfinished value).bind orderly
      fun _ stored ends orderly => ?_
    have inside : place < stored.generators.length := ends.generators ▸ inside
    have unfinished := ends.generator place ▸ unfinished
    exact orderly.keeps.endHere orderly isFree inside unfinished rfl

/-- **Returns in place keep order.** -/
theorem comesTo_returnDirectly (value : Value) :
    ComesTo (returnDirectly place value) world (fun _ after => KeepsOrder free world after)
      (KeepsOrder free world) := by
  have still := orderly.keeps
  refine comesTo_actUnlessFinished orderly fun unfinished => .get ?_
  dsimp only
  split
  · exact orderly.keeps.endHere orderly isFree inside unfinished rfl
  · split
    · exact .rejectThen still
    · refine .get (comesTo_there still fun block isAt => ?_)
      refine EndsNothing.bind orderly (.of_sameCode (leads_coerce place value _ world))
        fun coerced middle ends orderly => ?_
      have inside : place < middle.generators.length := ends.generators ▸ inside
      exact comesTo_endBlock orderly isFree inside (ends.generator place ▸ unfinished)
        (by rw [World.IsAt, ends.generator]; exact isAt) rfl

/-- **Storing the value to return keeps order.** -/
theorem comesTo_presetReturn (value : Value) :
    ComesTo (presetReturn place value) world (fun _ after => KeepsOrder free world after)
      (KeepsOrder free world) := by
  have still := orderly.keeps
  refine comesTo_actUnlessFinished orderly fun unfinished => .get ?_
  dsimp only
  split
  · exact .pure still
  · split
    · exact .rejectThen still
    · refine .get ((endsNothing_setUpReturn orderly isFree inside).bind orderly
        fun exit ready ends orderly => ?_)
      have inside : place < ready.generators.length := ends.generators ▸ inside
      exact .of_after ((endsNothing_storeResult orderly isFree inside
        (ends.generator place ▸ unfinished) value).keepsOrder orderly)

/-- **Conditional returns keep order.** -/
theorem comesTo_returnIf (condition value continuation : Value) :
    ComesTo (returnIf place condition value continuation) world
      (fun _ after => KeepsOrder free world after) (KeepsOrder free world) := by
  refine comesTo_actUnlessFinished orderly fun unfinished => .get ?_
  have keeps {after : World} (ends : EndsNothing world after) : KeepsOrder free world after :=
    ends.keepsOrder orderly
  refine ComesTo.through (fun _ after => EndsNothing world after)
    ((ComesTo.of_after (endsNothing_setUpReturn orderly isFree inside)).imp (fun _ _ => id)
      fun _ => keeps) fun exit ready ends => ?_
  refine ComesTo.through (fun _ after => EndsNothing world after)
    ((ComesTo.of_leads (leads_coerce place condition _)).imp
      (fun _ _ same => IsEffect.trans ends (.of_sameCode same))
      fun _ same => keeps (IsEffect.trans ends (.of_sameCode same))) fun tested coerced ends => ?_
  have stores := endsNothing_storeResult (keeps ends).orderly isFree
    (Nat.lt_of_lt_of_le inside (keeps ends).generators) (ends.generator place ▸ unfinished) value
  refine ComesTo.through (fun _ after => EndsNothing world after)
    ((ComesTo.of_after stores).imp (fun _ _ further => IsEffect.trans ends further)
      fun _ further => keeps (IsEffect.trans ends further)) fun _ stored ends => ?_
  have since := keeps ends
  dsimp only
  split
  · exact since.endHere orderly isFree inside unfinished rfl
  · have there := ends.routines _ (orderly.stands place isFree inside)
    refine ComesTo.through (fun target after => ∃ exit, target = blockValue exit ∧
      EndsNothing stored after ∧ IsVacant free world.Has world after exit)
      ((since.comesTo_newBlock _ "block" there _).map fun exit after both =>
        ⟨exit, rfl, both.1, both.2.1⟩) ?_
    rintro _ opened ⟨exit, rfl, further, vacant⟩
    exact (keeps (IsEffect.trans ends further)).moveOn orderly isFree inside unfinished rfl vacant

end Generator

end StructuredIR
