import StructuredIR.Proofs.Wiring.Visits

/-! # How loops bind their variables

* **`SetsUp`** says that some values have been stored in slots at the end of a block, one after the
  other, and **`Unfit`** why a value cannot be.
* **`Construction.Binds`** says how a loop binds its variables: the initial values are stored in slots
  where the generator is, each callback is called once with the first slots or with what they hold, and
  the loop gives the slots.
* **`Construction.Hosts.concludes_loop`**: a loop whose callbacks work properly binds its variables so,
  unless there is a reason for which it fails, which is one of **`Construction.Hinders`**. -/

namespace StructuredIR

open Build (Concludes bind_eq_ok concludes_bind_of_ok concludes_of_ok get_eq_ok
  map_eq_ok modify_eq_ok pure_eq_ok)
open Generator (blockValue)

/-! ## Slots -/

/-- **A value has been stored in a new slot**: at the end of a block there are the room for the type of
what the value is converted to and the store of that, and nothing else has happened. -/
inductive Stores (place : GeneratorId) (here : BlockRef) (before : World) (value : Value) :
    Operand → List Instruction → World → Prop where
  /-- There is no other way. -/
  | intro {operand : Operand} {coerced after : World} {room store : Instruction} :
      Generator.coerce place value none before = .ok operand coerced →
        room.operation = .alloca operand.type none → room.type = .pointer operand.type →
          store.operation = .store operand (room.result here.routine) →
            ChangesRow here (· ++ [room, store]) coerced after →
              Stores place here before value (room.result here.routine) [room, store] after

/-- **Slots have been set up** for some values at the end of a block, one after the other, and nothing
else has happened. -/
inductive SetsUp (place : GeneratorId) (here : BlockRef) :
    World → List Value → List Operand → List Instruction → World → Prop where
  /-- There is no value. -/
  | nil (world : World) : SetsUp place here world [] [] [] world
  /-- There is one, and then there are others. -/
  | cons {before middle after : World} {value : Value} {slot : Operand} {values : List Value}
    {slots : List Operand} {stored setUp : List Instruction} :
      Stores place here before value slot stored middle →
        SetsUp place here middle values slots setUp after →
          SetsUp place here before (value :: values) (slot :: slots) (stored ++ setUp) after

/-- **Why slots cannot be set up** for some values: one of them is no value of the code, or has no type
of which there are values. -/
inductive Unfit (place : GeneratorId) (here : BlockRef) : World → List Value → Fault → Prop where
  /-- The value is not converted. -/
  | inconvertible {before final : World} {value : Value} {values : List Value} {fault : Fault} :
      Generator.coerce place value none before = .error fault final →
        Unfit place here before (value :: values) fault
  /-- There are no values of its type. -/
  | void {before coerced : World} {value : Value} {operand : Operand} {values : List Value}
    {fault : Fault} : Generator.coerce place value none before = .ok operand coerced →
      operand.type = .void → Unfit place here before (value :: values) fault
  /-- It is stored, and a later one is to blame. -/
  | later {before middle : World} {value : Value} {slot : Operand} {stored : List Instruction}
    {values : List Value} {fault : Fault} : Stores place here before value slot stored middle →
      Unfit place here middle values fault → Unfit place here before (value :: values) fault

variable {place : GeneratorId} {here : BlockRef} {before after : World}

/-- Where a value is stored instructions are added. -/
theorem Stores.changesRow {value : Value} {slot : Operand} {stored : List Instruction}
    (stores : Stores place here before value slot stored after) :
    ChangesRow here (· ++ stored) before after := by
  obtain ⟨coercing, -, -, -, changes⟩ := stores
  exact changes.behind ((Generator.leads_coerce place value none).of_ok coercing)

/-- A slot is a pointer. -/
theorem Stores.pointer {value : Value} {slot : Operand} {stored : List Instruction}
    (stores : Stores place here before value slot stored after) :
    ∃ target, slot.type = .pointer target := by
  obtain ⟨-, -, pointer, -, -⟩ := stores
  exact ⟨_, pointer⟩

namespace SetsUp

variable {values : List Value} {slots : List Operand} {setUp : List Instruction}

/-- Where slots are set up instructions are added. -/
theorem changesRow (sets : SetsUp place here before values slots setUp after) :
    ChangesRow here (· ++ setUp) before after := by
  induction sets with
  | nil => exact .nil here _
  | cons stores _ ih => exact stores.changesRow.append ih

/-- All slots are pointers. -/
theorem pointers (sets : SetsUp place here before values slots setUp after) :
    ∀ slot ∈ slots, ∃ target, slot.type = .pointer target := by
  induction sets with
  | nil => exact List.forall_mem_nil _
  | cons stores _ ih => exact List.forall_mem_cons.mpr ⟨stores.pointer, ih⟩

/-- There is a slot for each value. -/
theorem length_eq (sets : SetsUp place here before values slots setUp after) :
    slots.length = values.length := by
  induction sets with
  | nil => rfl
  | cons _ _ ih => rw [List.length_cons, List.length_cons, ih]

end SetsUp

/-- There are addresses of values of all types but `void`. -/
theorem IRType.address?_of_ne_void {type : IRType} (valued : type ≠ .void) :
    type.address? = some (.pointer type) := by
  cases type with
  | void => exact absurd rfl valued
  | _ => rfl

namespace Generator

/-- **A value is stored in a slot** if there are values of its type. -/
theorem stores_run {value : Value} {operand : Operand} {coerced : World}
    (standing : (before.generator place).block = blockValue here)
    (coercing : coerce place value none before = .ok operand coerced) (valued : operand.type ≠ .void) :
    ∃ slot roomy stored done after, emit place (.alloca operand.type none) coerced = .ok slot roomy ∧
      emit place (.store operand slot) roomy = .ok done after ∧
        Stores place here before value slot stored after := by
  have same := (leads_coerce place value none : Build.Leads SameCode _).of_ok coercing
  have standing : (coerced.generator place).block = blockValue here := same.generator place ▸ standing
  have checked : (Operation.alloca operand.type none).check = .ok (.pointer operand.type) := by
    simp only [Operation.check, IRType.address?_of_ne_void valued]
  obtain ⟨slot, roomy, allocating⟩ := Build.emit_succeeds here coerced checked
    fun claimed => absurd claimed Bool.false_ne_true
  obtain ⟨room, allocates, typed, rfl, -, first⟩ := Build.emit_ok allocating
  have pointer : room.type = .pointer operand.type := Except.ok.inj (typed.symm.trans checked)
  have checked : (Operation.store operand (room.result here.routine)).check = .ok .void := by
    have type : (room.result here.routine).type = .pointer operand.type := pointer
    rw [Operation.check, type]
    exact if_pos rfl
  obtain ⟨done, after, storing⟩ := Build.emit_succeeds here roomy checked
    fun claimed => absurd claimed Bool.false_ne_true
  obtain ⟨store, stores, -, -, -, second⟩ := Build.emit_ok storing
  refine ⟨_, roomy, _, done, after, ?_, ?_,
    .intro coercing allocates pointer stores (first.append second)⟩
  · rw [emit_of_block standing, allocating]
  · rw [emit_of_block (first.toSameFrame.generator place ▸ standing), storing]

/-- **Slots are set up** for some values, unless one of them is unfit. -/
theorem concludes_createSlots (values : List Value)
    (standing : (before.generator place).block = blockValue here) :
    Concludes (createSlots place values) before
      (fun slots after => ∃ setUp, SetsUp place here before values slots setUp after)
      (Unfit place here before values) := by
  induction values generalizing before with
  | nil => exact concludes_of_ok rfl ⟨[], .nil before⟩
  | cons value values ih =>
      have converts : Concludes (coerce place value none) before (fun _ _ => True)
          (Unfit place here before (value :: values)) :=
        ⟨fun _ _ _ => trivial, fun fault final failed => .inconvertible failed⟩
      refine converts.bind fun operand coerced coercing _ => ?_
      by_cases void : operand.type = .void
      · -- No room is made for what is no value, so the store is never reached.
        have refuses : Concludes (emit place (.alloca operand.type none)) coerced (fun _ _ => False)
            (Unfit place here before (value :: values)) := by
          refine ⟨fun slot roomy run => ?_, fun _ _ _ => .void coercing void⟩
          obtain ⟨block, _, -, run⟩ := bind_eq_ok.mp run
          obtain ⟨room, -, typed, -⟩ := Build.emit_ok run
          rw [void] at typed
          cases typed
        exact refuses.bind fun _ _ _ => False.elim
      · obtain ⟨slot, roomy, stored, done, middle, allocating, storing, stores⟩ :=
          stores_run standing coercing void
        have standing := stores.changesRow.toSameFrame.generator place ▸ standing
        refine concludes_bind_of_ok allocating (concludes_bind_of_ok storing ?_)
        refine Concludes.bind
          ((ih standing).imp (fun _ _ _ => id) fun _ unfit => .later stores unfit) ?_
        rintro slots after - ⟨setUp, sets⟩
        exact concludes_of_ok rfl ⟨stored ++ setUp, .cons stores sets⟩

/-- The blocks of a loop are always laid. -/
theorem loopBlocks_run (function : FunctionRef) (header : BlockRef) (parts : LoopParts) (given : Value)
    (world : World) : ∃ blocks laid, loopBlocks function header parts given world = .ok blocks laid := by
  obtain ⟨compare, increment, body⟩ := parts
  unfold loopBlocks loopEnd
  cases body <;> cases compare <;> cases increment <;> cases given.isGiven <;> exact ⟨_, _, rfl⟩

/-- Where the callbacks of a loop begin to build. -/
theorem LoopParts.starts_eq {parts : LoopParts} {blocks : LoopBlocks} (slots : List Operand)
    (body : blocks.body.isSome = parts.body.isSome)
    (increment : blocks.increment.isSome = parts.increment.isSome) :
    (parts.invocations blocks slots).map Invocation.start = blocks.body.toList ++
      (if parts.compare.isSome then [blocks.header] else []) ++ blocks.increment.toList := by
  have first : (parts.bodyCalls blocks slots).map Invocation.start = blocks.body.toList := by
    revert body
    unfold LoopParts.bodyCalls
    cases parts.body <;> cases blocks.body <;> simp
  have second : (parts.compareCalls blocks slots).map Invocation.start =
      if parts.compare.isSome then [blocks.header] else [] := by
    unfold LoopParts.compareCalls
    cases parts.compare <;> rfl
  have third : (parts.incrementCalls blocks slots).map Invocation.start = blocks.increment.toList := by
    revert increment
    unfold LoopParts.incrementCalls LoopBlocks.continue
    cases parts.increment <;> cases blocks.increment <;> simp
  rw [LoopParts.invocations, List.map_append, List.map_append, first, second, third]

end Generator

namespace Construction

variable {site : Construction}

/-! ## Preparing a loop -/

/-- There is nothing in a new block. -/
theorem IsNew.row_eq_nil {block : BlockRef} (new : site.IsNew before block) : before.row block = [] :=
  before.row_of_blockCount_le (Nat.le_of_not_lt new.not_has)

/-- **The turns of a loop begin at an empty block**, and only a block that has ended cannot lead
there. -/
theorem Hosts.concludes_loopHeader (hosts : site.Hosts before place)
    (standing : (before.generator place).block = blockValue here) :
    Concludes (Generator.loopHeader place site.reference) before
      (fun header after => after.row header = []) (fun _ => before.endings here ≠ []) := by
  refine concludes_bind_of_ok (Generator.position_of_block standing) ?_
  refine concludes_bind_of_ok rfl (concludes_bind_of_ok rfl ?_)
  rw [hosts.entry]
  split
  next reused =>
    exact concludes_of_ok rfl (List.isEmpty_iff.mp (Bool.and_eq_true_iff.mp reused).1)
  next =>
    -- A new block is added, and led to; the branch fails only if the block has ended.
    obtain ⟨added, appending, -⟩ :=
      Function.appendNamed_run site.reference "loop" before (hosts.stands ▸ hosts.known)
    have lays := hosts.toHolds.lays appending
    have new := lays.fresh _ (List.mem_singleton_self _)
    have hosts' := hosts.later lays.toProgress id
    have standing' := lays.generator place hosts.inside id ▸ standing
    refine concludes_bind_of_ok appending (Concludes.bind ⟨?ok, ?error⟩
      fun _ final _ blank => concludes_of_ok rfl blank)
    case ok =>
      intro value final run
      obtain ⟨block, made, same, -, -, changes, -⟩ := hosts'.emit_ok run
      obtain rfl : here = block := by
        rw [standing'] at same
        cases same
        rfl
      have apart {block : BlockRef} (new : site.IsNew before block) : block ≠ here := fun same =>
        new.not_has (same ▸ hosts.standing here standing)
      rw [changes.row, if_neg fun claimed => apart new claimed.1, lays.rows]
      exact new.row_eq_nil
    case error =>
      intro fault final failed unended
      have free : added.endings here = [] := by
        rw [World.endings, lays.rows]
        exact unended
      obtain ⟨value, after, emitting⟩ := Generator.emit_run standing' free (.branch _) rfl
      rw [failed] at emitting
      cases emitting

/-- There is nothing in the blocks of a loop when they are laid, if there is nothing in its header. -/
theorem Holds.row_eq_nil_of_loopBlocks (holds : site.Holds before) {header : BlockRef}
    {parts : Generator.LoopParts} {given : Value} {blocks : Generator.LoopBlocks}
    (run : Generator.loopBlocks site.reference header parts given before = .ok blocks after)
    (blank : before.row header = []) {block : BlockRef}
    (member : block ∈ blocks.body.toList ++ (if parts.compare.isSome then [blocks.header] else []) ++
      blocks.increment.toList) : after.row block = [] := by
  obtain ⟨rfl, body, increment, exit, bodyAt, incrementAt, -, lays⟩ := holds.loopBlocks run
  rw [lays.rows]
  have blank {laid : List BlockRef} (member : block ∈ blocks.header :: laid)
      (among : laid ⊆ body ++ increment ++ exit) : before.row block = [] := by
    rcases List.mem_cons.mp member with rfl | laid
    · exact blank
    · exact (lays.fresh block (among laid)).row_eq_nil
  rcases List.mem_append.mp member with first | last
  · rcases List.mem_append.mp first with own | compare
    · refine blank (bodyAt.mem (Option.mem_toList.mp own)) fun _ member => ?_
      exact List.mem_append_left _ (List.mem_append_left _ member)
    · split at compare
      · exact blank (List.mem_append_left [] compare) (List.nil_subset _)
      · cases compare
  · refine blank (incrementAt.mem (Option.mem_toList.mp last)) fun _ member => ?_
    exact List.mem_append_left _ (List.mem_append_right _ member)

/-! ## Closing a loop -/

variable {fails : Fault → Prop}

/-- **A block that is in order may be moved** behind another one that is. -/
theorem Holds.concludes_moveAfter (holds : site.Holds before) {moved anchor : Nat}
    (inside : moved ∈ before.order site.symbol) (anchored : anchor ∈ before.order site.symbol) :
    Concludes (Function.moveAfter site.reference (blockValue ⟨site.symbol, moved⟩)
      (blockValue ⟨site.symbol, anchor⟩)) before (fun _ _ => True) fails := by
  have placed {routine : Routine} {place : Nat} (member : place ∈ routine.order) :
      Function.placeInOrder? routine site.symbol (blockValue ⟨site.symbol, place⟩) = some place :=
    if_pos ⟨rfl, List.contains_iff_mem.mpr member⟩
  have isSame := isSame_blocks ⟨site.symbol, moved⟩ ⟨site.symbol, anchor⟩ before
  refine concludes_bind_of_ok isSame ?_
  by_cases same : moved = anchor
  · rw [decide_eq_true (congrArg (BlockRef.mk site.symbol) same)]
    exact concludes_of_ok rfl trivial
  · rw [decide_eq_false fun claimed => same (congrArg BlockRef.place claimed)]
    refine concludes_bind_of_ok rfl (concludes_bind_of_ok rfl ?_)
    have found : Function.placeInOrder? (before.routine site.symbol) site.symbol _ = some moved :=
      placed inside
    have behind : Function.placeInOrder?
        { before.routine site.symbol with order := (before.routine site.symbol).order.erase moved }
        site.symbol (blockValue ⟨site.symbol, anchor⟩) = some anchor :=
      placed ((List.mem_erase_of_ne fun claimed => same claimed.symm).mpr anchored)
    rw [holds.stands]
    dsimp only
    rw [found]
    refine concludes_bind_of_ok rfl ?_
    rw [behind]
    exact concludes_of_ok rfl trivial

/-- **A loop is closed** if its exit is still in order, and no instruction changes. -/
theorem Hosts.concludes_endLoop (hosts : site.Hosts before place) {given exit : Value}
    (slots : List Operand) (ordered : given.isGiven = false →
      ∃ exits ∈ before.order site.symbol, exit = blockValue ⟨site.symbol, exits⟩) :
    Concludes (do
      if given.isGiven then Generator.finish place
      else
        Generator.moveToEnd site.reference exit
        Generator.moveTo place exit
      return Generator.slotsValue slots : Build Value) before
        (fun value after => value = Generator.slotsValue slots ∧
          ∀ block, after.row block = before.row block) fails := by
  refine (?_ : Concludes _ before (fun _ _ => True) fails).imp (fun value after run _ => ?_) fun _ => id
  · cases isGiven : given.isGiven with
    | true => exact concludes_of_ok rfl trivial
    | false =>
        obtain ⟨exits, inside, rfl⟩ := ordered isGiven
        have nonempty := List.ne_nil_of_mem inside
        have last : (before.blocks site.symbol).getLast? =
            some ⟨site.symbol, (before.order site.symbol).getLast nonempty⟩ := by
          rw [World.blocks, List.getLast?_map]
          exact congrArg (Option.map _) (List.getLast?_eq_some_getLast nonempty)
        have moves : Concludes (Generator.moveToEnd site.reference (blockValue ⟨site.symbol, exits⟩))
            before (fun _ _ => True) fails := by
          refine concludes_bind_of_ok rfl ?_
          rw [hosts.stands, last]
          exact hosts.concludes_moveAfter inside (List.getLast_mem nonempty)
        exact moves.bind fun _ _ _ _ => concludes_of_ok rfl trivial
  · obtain ⟨same, -, rows, -⟩ := hosts.endLoop run
    exact ⟨same, rows⟩

/-! ## Binding -/

variable (site)

/-- **What comes up when a loop is prepared.** -/
structure Preparation where
  /-- The block at which the generator is. -/
  here : BlockRef
  /-- The slots. -/
  slots : List Operand
  /-- The instructions that set them up. -/
  setUp : List Instruction
  /-- The world in which they are set up. -/
  slotted : World
  /-- The blocks of the loop. -/
  blocks : Generator.LoopBlocks
  /-- The world in which they are laid. -/
  laid : World

/-- **A loop is prepared**: its initial values are stored in slots, at the end of the block at which the
generator is, before anything else happens; and then its blocks are laid. -/
structure Prepares (place : GeneratorId) (initial : Value) (parts : Generator.LoopParts) (given : Value)
    (before : World) (loop : Preparation) : Prop where
  /-- The generator is at the block. -/
  standing : (before.generator place).block = blockValue loop.here
  /-- The slots are set up first. -/
  setsUp : SetsUp place loop.here before (before.loopValues initial) loop.slots loop.setUp loop.slotted
  /-- Then the blocks are laid. -/
  lays : ∃ header entered,
    Generator.loopHeader place site.reference loop.slotted = .ok header entered ∧
      Generator.loopBlocks site.reference header parts given entered = .ok loop.blocks loop.laid

/-- **How a loop binds its variables**: once it is prepared each callback is called once, and the loop
gives the slots. -/
structure Binds (place : GeneratorId) (initial : Value) (parts : Generator.LoopParts) (given : Value)
    (before : World) (loop : Preparation) (visits : List Visit) (value : Value) (after : World) :
    Prop extends site.Prepares place initial parts given before loop where
  /-- **Each callback is called once**, with the first slots or with what they hold, and nothing else
  happens then but that the loop is closed, which changes no instruction. -/
  calls : ∃ built, site.AnswersEach loop.blocks loop.laid (parts.invocations loop.blocks loop.slots)
    visits built ∧ ∀ block, after.row block = built.row block
  /-- **What sets up the slots stays** right behind what was there. -/
  stays : ∃ front added,
    after.row loop.here = front ++ (before.row loop.here ++ loop.setUp) ++ added ∧ IsStraight front ∧
      (site.entry? ≠ some loop.here → front = [])
  /-- **What has been loaded for a callback stays** at the beginning of its block. -/
  begins (visit : Visit) : visit ∈ visits →
    visit.part.opened.row visit.part.start <+: after.row visit.part.start
  /-- **The loop gives the slots**: the only one, or the list of all of them. -/
  gives : value = Generator.slotsValue loop.slots

/-- **Why a loop fails.** -/
inductive Hinders (place : GeneratorId) (initial : Value) (parts : Generator.LoopParts) (given : Value)
    (before : World) (fault : Fault) : Prop where
  /-- The generator is at no block. -/
  | nowhere : (∀ block, (before.generator place).block ≠ blockValue block) →
      Hinders place initial parts given before fault
  /-- A value cannot be stored in a slot. -/
  | unfit {here : BlockRef} : (before.generator place).block = blockValue here →
      Unfit place here before (before.loopValues initial) fault →
        Hinders place initial parts given before fault
  /-- The block has ended already, so that nothing can lead to the header. -/
  | ended {here : BlockRef} : (before.generator place).block = blockValue here →
      before.endings here ≠ [] → Hinders place initial parts given before fault
  /-- A callback fails, or its answer is no condition. -/
  | part {loop : Preparation} : site.Prepares place initial parts given before loop →
      site.PartFails parts loop.blocks loop.slots fault → Hinders place initial parts given before fault

variable {site}

/-- **A loop that is prepared binds its variables.** -/
theorem Hosts.concludes_prepared (hosts : site.Hosts before place) {initial given : Value}
    {parts : Generator.LoopParts} (confines : ∀ callback ∈ parts.callbacks, site.Confines callback)
    {loop : Preparation} {header : BlockRef} {entered : World}
    (prepares : site.Prepares place initial parts given before loop)
    (storing : Generator.createSlots place (before.loopValues initial) before =
      .ok loop.slots loop.slotted)
    (heading : Generator.loopHeader place site.reference loop.slotted = .ok header entered)
    (laying : Generator.loopBlocks site.reference header parts given entered =
      .ok loop.blocks loop.laid) (blank : entered.row header = []) :
    Concludes (do
      Generator.buildParts place parts loop.blocks loop.slots
      if given.isGiven then Generator.finish place
      else
        Generator.moveToEnd site.reference loop.blocks.exit
        Generator.moveTo place loop.blocks.exit
      return Generator.slotsValue loop.slots : Build Value) loop.laid
      (fun value after => ∃ visits,
        site.Binds place initial parts given before loop visits value after)
      (site.Hinders place initial parts given before) := by
  obtain ⟨here, forHeader, forBody, forIncrement, forExit, lays⟩ :=
    hosts.laysLoop storing heading laying
  have lays := lays none none none
  have emits := (Generator.leads_createSlots place _ : Build.Leads (Emits place) _).of_ok storing
  have slotting := hosts.toHolds.emits emits
  obtain ⟨_, _, _, enters⟩ := (hosts.later slotting id).loopHeader heading
  obtain ⟨_, _, _, _, -, -, -, laid⟩ := enters.progress.holds.loopBlocks laying
  have hosted := hosts.later lays.progress id
  have starts := Generator.LoopParts.starts_eq loop.slots lays.bodyAt.isSome_eq
    lays.incrementAt.isSome_eq
  have ready : ∀ invocation ∈ parts.invocations loop.blocks loop.slots,
      site.Ready loop.laid invocation.start := by
    intro invocation member
    have start := starts ▸ List.mem_map_of_mem (f := Invocation.start) member
    obtain ⟨known, apart⟩ := lays.ready hosts _ (lays.mem_of_starts start)
    exact ⟨known, enters.progress.holds.row_eq_nil_of_loopBlocks laying blank start, apart⟩
  have apart : ((parts.invocations loop.blocks loop.slots).map Invocation.start).Nodup :=
    starts ▸ lays.bodyAt.nodup_starts lays.incrementAt lays.distinct
  refine Concludes.bind ((hosted.concludes_buildParts prepares.setsUp.pointers confines
    lays.bodyAt.isSome_eq lays.incrementAt.isSome_eq ready apart).imp (fun _ _ _ => id)
      fun _ => .part prepares) ?_
  rintro _ built - ⟨visits, answers⟩
  have calling := answers.progress lays.progress.holds
  refine ((hosted.later calling id).concludes_endLoop loop.slots fun free => ?ordered).imp
    ?bound fun _ => id
  case ordered =>
    -- The exit has been laid into the order, and no callback takes it out.
    obtain ⟨exit, isExit, member⟩ := lays.exitAt.exists_block (Bool.eq_false_iff.mp free)
    have member : exit ∈ Circuit.laid _ := List.mem_append_right _ (List.mem_append_right _ member)
    refine ⟨exit.place, answers.order_subset (fun invocation called => confines _ ?_) ?_, ?_⟩
    · rw [← parts.map_callback_invocations loop.blocks loop.slots]
      exact List.mem_map_of_mem called
    · rw [lays.order]
      exact List.mem_append_right _ (List.mem_map_of_mem member)
    · rw [isExit, ← (lays.fresh exit member).routine]
  case bound =>
    rintro value after - ⟨same, rows⟩
    refine ⟨visits, prepares, ⟨built, answers, rows⟩, ?stays, fun visit member => ?begins, same⟩
    case begins =>
      rw [rows]
      exact answers.begins_with member
    -- What sets up the slots was the last of its row, and all that happens later leaves it there.
    have known := hosts.standing _ prepares.standing
    have set : loop.slotted.row loop.here = before.row loop.here ++ loop.setUp := by
      rw [prepares.setsUp.changesRow.row, if_pos ⟨rfl, known⟩]
    have onward : site.Progress nothing (fun _ => True) loop.slotted built :=
      ((enters.progress.weaken (fun _ _ => id) fun _ _ _ => trivial).idly laid.toProgress).trans
        calling (fun _ _ => id) fun _ _ _ => trivial
    obtain ⟨front, added, row, straight, first, -⟩ := onward.row loop.here (slotting.has known)
    exact ⟨front, added, by rw [rows, row, set], straight, first⟩

/-- A callback that gives a value and takes some number of arguments. -/
def taking (arity : Nat) (value : Value) : Callback :=
  { giving value with arity? := some arity }

/-- Such a callback keeps to its generator. -/
theorem keepsToPart_taking (arity : Nat) (value : Value) : (taking arity value).KeepsToPart :=
  fun part _ => .pure part value

/-- Parts of a loop that take one variable, both variables and all that there are. -/
def sharing : Generator.LoopParts :=
  ⟨some (taking 2 (.truth true)), some (taking 3 .none), some (giving .none)⟩

end Construction

end StructuredIR
