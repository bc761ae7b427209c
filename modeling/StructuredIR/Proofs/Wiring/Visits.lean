import StructuredIR.Proofs.Wiring.Confined

/-! # How loops call their callbacks

Each part of a loop is built by one call of its callback.

* **`Invocation`** says how a callback is called: for a part that begins at a block, with some slots or
  with what they hold. **`Generator.LoopParts.invocations`** are those of a loop.
* **`Construction.Opens`** says what happens before the call: there is a new generator at an empty block,
  and what the slots hold has been loaded there.
* **`Construction.Answers`** says that a callback has been called so, and that nothing has happened since
  but that its part has been led on; **`Construction.AnswersEach`** says it of calls in a row.
* **`Construction.Hosts.concludes_buildParts`**: the parts of a loop are built by just these calls, unless
  a callback fails or gives no condition. -/

namespace StructuredIR

open Build (Leads bind_eq_ok bind_eq_error get_eq_ok map_eq_ok modify_eq_ok pure_eq_ok)
open Generator (blockValue conditionType)

/-! ## Outcomes -/

namespace Build

variable {Result Next : Type} {step : Build Result} {next : Result → Build Next}
  {world between final : World} {value : Result} {succeeds : Next → World → Prop}
  {fails : Fault → Prop}

/-- **What a step comes to**: if it succeeds, something holds of its result and of the world that it
leaves behind, and if it fails, something holds of the fault. -/
structure Concludes (step : Build Result) (world : World) (succeeds : Result → World → Prop)
    (fails : Fault → Prop) : Prop where
  /-- What comes of success. -/
  ok (value : Result) (final : World) : step world = .ok value final → succeeds value final
  /-- What comes of failure. -/
  error (fault : Fault) (final : World) : step world = .error fault final → fails fault

/-- A step that succeeds comes to what it leaves behind. -/
theorem concludes_of_ok {succeeds : Result → World → Prop} (run : step world = .ok value final)
    (holds : succeeds value final) : Concludes step world succeeds fails where
  ok _ _ again := by
    cases run.symm.trans again
    exact holds
  error _ _ failed := by cases run.symm.trans failed

/-- A step that does the same comes to the same. -/
theorem Concludes.of_eq {other : Build Result} {succeeds : Result → World → Prop}
    (concludes : Concludes other world succeeds fails) (same : step world = other world) :
    Concludes step world succeeds fails where
  ok value final run := concludes.ok value final (same.symm.trans run)
  error fault final failed := concludes.error fault final (same.symm.trans failed)

/-- What a step comes to, in other words. -/
theorem Concludes.imp {holds claimed : Result → World → Prop} {blames : Fault → Prop}
    (concludes : Concludes step world holds blames)
    (enough : ∀ value final, step world = .ok value final → holds value final → claimed value final)
    (blamed : ∀ fault, blames fault → fails fault) : Concludes step world claimed fails where
  ok value final run := enough value final run (concludes.ok value final run)
  error fault final failed := blamed fault (concludes.error fault final failed)

/-- Steps come to what the second one comes to, if the first one does not fail. -/
theorem Concludes.bind {holds : Result → World → Prop} (first : Concludes step world holds fails)
    (second : ∀ value between, step world = .ok value between → holds value between →
      Concludes (next value) between succeeds fails) :
    Concludes (step >>= next) world succeeds fails where
  ok value final run := by
    obtain ⟨_, between, stepping, run⟩ := bind_eq_ok.mp run
    exact (second _ between stepping (first.ok _ between stepping)).ok value final run
  error fault final run := by
    rcases bind_eq_error.mp run with failed | ⟨_, between, stepping, failed⟩
    · exact first.error fault final failed
    · exact (second _ between stepping (first.ok _ between stepping)).error fault final failed

/-- Behind a step that succeeds comes what comes. -/
theorem concludes_bind_of_ok (run : step world = .ok value between)
    (second : Concludes (next value) between succeeds fails) :
    Concludes (step >>= next) world succeeds fails :=
  (concludes_of_ok run ⟨rfl, rfl⟩ : Concludes step world
    (fun result final => result = value ∧ final = between) fails).bind
      fun _ _ _ ⟨same, final⟩ => same ▸ final ▸ second

end Build

open Build (Concludes concludes_of_ok concludes_bind_of_ok)

/-! ## Loading what slots hold -/

/-- Instructions are added behind others. -/
theorem ChangesRow.append {block : BlockRef} {first second : List Instruction}
    {before middle after : World} (left : ChangesRow block (· ++ first) before middle)
    (right : ChangesRow block (· ++ second) middle after) :
    ChangesRow block (· ++ (first ++ second)) before after where
  toSameFrame := IsEffect.trans left.toSameFrame right.toSameFrame
  row other := by
    rw [right.row, left.row, left.row, left.blockCount]
    -- The first change adds no blocks, so both find the row or none does.
    by_cases here : other = block ∧ block.place < before.blockCount block.routine
    · rw [if_pos here, if_pos here, if_pos ⟨rfl, here.2⟩, List.append_assoc]
    · rw [if_neg here, if_neg here, if_neg here]

/-- Nothing is added. -/
theorem ChangesRow.nil (block : BlockRef) (world : World) : ChangesRow block (· ++ []) world world where
  toSameFrame := IsEffect.refl world
  row other := by
    split
    next here => rw [here.1, List.append_nil]
    next => rfl

/-- A block that has not ended may be ended. -/
theorem World.isTerminated_of_endings {world : World} {block : BlockRef}
    (free : world.endings block = []) : world.isTerminated block = false := by
  rw [World.isTerminated_eq, List.any_eq_false]
  intro instruction member ends
  have claimed : instruction.operation ∈ world.endings block :=
    List.mem_filter.mpr ⟨List.mem_map_of_mem member, ends⟩
  rw [free] at claimed
  cases claimed

namespace Generator

variable {part : GeneratorId} {start : BlockRef} {world : World}

/-- What passes its checks is added where a generator is, if its block has not ended. -/
theorem emit_run (here : (world.generator part).block = blockValue start)
    (free : world.endings start = []) (operation : Operation) {type : IRType}
    (checked : operation.check = .ok type) :
    ∃ value final, Generator.emit part operation world = .ok value final := by
  rw [emit_of_block here]
  exact Build.emit_succeeds start world checked fun _ => World.isTerminated_of_endings free

/-- A pointer is a pointer. -/
theorem coercePointer_run (name : String) {slot : Operand} {target : IRType}
    (pointer : slot.type = .pointer target) :
    coercePointer part name (.operand slot) world = .ok slot world := by
  have coerced : coerce part (.operand slot) none world = .ok slot world := by
    simp only [coerce, library, Coercion.coerce, Coercion.coerceSingle, Bind.bind, EStateM.bind, get,
      getThe, MonadStateOf.get, EStateM.get, pure, EStateM.pure]
  simp only [coercePointer, Bind.bind, EStateM.bind, coerced, pointer, IRType.isPointer, if_true, pure,
    EStateM.pure]

variable (here : (world.generator part).block = blockValue start)
  (unfinished : (world.generator part).isFinished = false)
include here unfinished

/-- What a slot holds is loaded where a generator is. -/
theorem load_run {slot : Operand} {target : IRType} (pointer : slot.type = .pointer target) :
    ∃ load final, Generator.load part (.operand slot) world =
        .ok (.operand (load.result start.routine)) final ∧
      load.operation = .load slot ∧ ChangesRow start (· ++ [load]) world final := by
  have checked : (Operation.load slot).check = .ok target := by
    simp only [Operation.check, pointer]
  obtain ⟨value, final, emitting⟩ := Build.emit_succeeds start world checked
    fun claimed => absurd claimed Bool.false_ne_true
  obtain ⟨load, does, -, rfl, -, changes⟩ := Build.emit_ok emitting
  refine ⟨load, final, ?_, does, changes⟩
  rw [Generator.load, operandUnlessFinished, unlessFinished_of_not_isFinished unfinished]
  simp only [loadOperand, Bind.bind, EStateM.bind, position_of_block here,
    coercePointer_run "load" pointer, emitting, pure, EStateM.pure]

/-- **What slots hold is loaded** where a generator is, in order. -/
theorem loadSlots_run {slots : List Operand}
    (pointers : ∀ slot ∈ slots, ∃ target, slot.type = .pointer target) :
    ∃ loads final, loadSlots part slots world =
        .ok (loads.map fun load => .operand (load.result start.routine)) final ∧
      loads.map Instruction.operation = slots.map .load ∧
        ChangesRow start (· ++ loads) world final := by
  induction slots generalizing world with
  | nil => exact ⟨[], world, rfl, rfl, .nil start world⟩
  | cons slot slots ih =>
      obtain ⟨target, pointer⟩ := pointers slot List.mem_cons_self
      obtain ⟨load, loaded, loading, does, changes⟩ := load_run here unfinished pointer
      have same := changes.toSameFrame.generator part
      obtain ⟨loads, final, loadingOn, do_, further⟩ := ih (same ▸ here) (same ▸ unfinished)
        fun slot member => pointers slot (List.mem_cons_of_mem _ member)
      refine ⟨load :: loads, final, ?_, ?_, changes.append further⟩
      · simp only [loadSlots, Bind.bind, EStateM.bind, loading, loadingOn, pure, EStateM.pure,
          List.map_cons]
      · rw [List.map_cons, List.map_cons, does, do_]

end Generator

/-! ## Calls -/

/-- **How many values a callback takes** besides its generator, of a number of them. -/
def Callback.taken (callback : Callback) (count : Nat) : Nat :=
  match callback.arity? with
  | none => count
  | some arity => min count (arity - 1)

/-- A callback is given as many of some values as it takes. -/
theorem Generator.trimmed_eq {Item : Type} (callback : Callback) (values : List Item) :
    Generator.trimmed callback values = values.take (callback.taken values.length) := by
  unfold Generator.trimmed Callback.taken
  cases callback.arity? with
  | none => exact (List.take_length ..).symm
  | some arity =>
      show values.take (arity - 1) = values.take (min values.length (arity - 1))
      rw [Nat.min_comm, ← List.take_take, List.take_length]

/-- **How a callback of a loop is called.** -/
structure Invocation where
  /-- The callback. -/
  callback : Callback
  /-- The block at which its part begins. -/
  start : BlockRef
  /-- The slots that it is about. -/
  slots : List Operand
  /-- Whether it is called with what they hold. -/
  isLoaded : Bool

namespace Generator.LoopParts

variable (parts : Generator.LoopParts) (blocks : Generator.LoopBlocks) (slots : List Operand)

/-- **The body of a loop** is called with what the first slots hold, as many as it takes. -/
def bodyCalls : List Invocation :=
  parts.body.toList.map fun body =>
    ⟨body, blocks.body.getD blocks.header, slots.take (body.taken slots.length), true⟩

/-- **The condition of a loop** is called with what the first slots hold, as many as it takes. -/
def compareCalls : List Invocation :=
  parts.compare.toList.map fun compare =>
    ⟨compare, blocks.header, slots.take (compare.taken slots.length), true⟩

/-- **The increment of a loop** is called with the first slots, as many as it takes. -/
def incrementCalls : List Invocation :=
  parts.increment.toList.map fun increment =>
    ⟨increment, blocks.continue, slots.take (increment.taken slots.length), false⟩

/-- **How the callbacks of a loop are called**, one after the other. -/
def invocations : List Invocation :=
  parts.bodyCalls blocks slots ++ parts.compareCalls blocks slots ++ parts.incrementCalls blocks slots

/-- All callbacks are called, and no others. -/
theorem map_callback_invocations :
    (parts.invocations blocks slots).map Invocation.callback = parts.callbacks := by
  simp only [invocations, bodyCalls, compareCalls, incrementCalls, callbacks, List.map_append,
    List.map_map, Function.comp_def, List.map_id']

end Generator.LoopParts

/-- **A call of a callback** that builds a part of a loop. -/
structure Visit where
  /-- The part. -/
  part : Part
  /-- What the callback is called with besides its generator. -/
  arguments : List Value

namespace Construction

variable (site : Construction)

/-- **What happens before a callback is called**: there is a new generator at the beginning of an empty
block, and where the callback is called with what slots hold, that has been loaded there. -/
structure Opens (blocks : Generator.LoopBlocks) (invocation : Invocation) (base : World)
    (arguments : List Value) (opened : World) : Prop where
  /-- The block is empty. -/
  blank : base.row invocation.start = []
  /-- There is one more generator, and otherwise the same. -/
  frame : SameFrame (base.joined
    (site.startingAt invocation.start (blockValue blocks.continue) blocks.exit)) opened
  /-- There are the loads in the block, and otherwise the same instructions. -/
  loads : ∃ loads : List Instruction,
    (∀ block, opened.row block = if block = invocation.start then loads else base.row block) ∧
      if invocation.isLoaded then
        loads.map Instruction.operation = invocation.slots.map .load ∧
          arguments = loads.map fun load => .operand (load.result invocation.start.routine)
      else loads = [] ∧ arguments = invocation.slots.map .operand

/-- **A callback has been called** for its part, and nothing has happened since but that the part has been
led on. -/
structure Answers (blocks : Generator.LoopBlocks) (invocation : Invocation) (base : World)
    (visit : Visit) (after : World) : Prop extends site.Begun base visit.part where
  /-- The part begins where it should. -/
  starts : visit.part.start = invocation.start
  /-- Its generator is new. -/
  isNext : visit.part.place = base.generators.length
  /-- **All is set for the call.** -/
  set : site.Opens blocks invocation base visit.arguments visit.part.opened
  /-- **This is the call.** -/
  calls : ∃ answer, invocation.callback.run (.generator visit.part.place :: visit.arguments)
    visit.part.opened = .ok answer visit.part.built
  /-- The part has been led on. -/
  leads : ∃ led, site.LeadsOn visit.part led ∧ SameLayout visit.part.built led ∧
    after = finished visit.part.place led

/-- **Callbacks have been called** one after the other, each of them once, and nothing else has
happened. -/
inductive AnswersEach (blocks : Generator.LoopBlocks) :
    World → List Invocation → List Visit → World → Prop where
  /-- There is none. -/
  | nil (world : World) : AnswersEach blocks world [] [] world
  /-- There is one, and then others. -/
  | cons {base middle after : World} {invocation : Invocation} {visit : Visit}
    {invocations : List Invocation} {visits : List Visit} :
      site.Answers blocks invocation base visit middle →
        AnswersEach blocks middle invocations visits after →
          AnswersEach blocks base (invocation :: invocations) (visit :: visits) after

/-- **Why a loop fails** whose blocks are laid: a callback has failed that was called as it should be, or
the answer is no condition. -/
inductive PartFails (parts : Generator.LoopParts) (blocks : Generator.LoopBlocks) (slots : List Operand)
    (fault : Fault) : Prop where
  /-- A callback has failed. -/
  | raises {invocation : Invocation} {base opened final : World} {arguments : List Value} :
      invocation ∈ parts.invocations blocks slots →
        site.Opens blocks invocation base arguments opened →
          invocation.callback.run (.generator base.generators.length :: arguments) opened =
            .error fault final →
              PartFails parts blocks slots fault
  /-- The answer is no condition. -/
  | declines {invocation : Invocation} {base opened built final : World} {arguments : List Value}
    {answer : Value} : invocation ∈ parts.invocations blocks slots →
      parts.compare = some invocation.callback →
        site.Opens blocks invocation base arguments opened →
          invocation.callback.run (.generator base.generators.length :: arguments) opened =
            .ok answer built →
              Generator.coerce base.generators.length answer (some conditionType) built =
                .error fault final →
                  PartFails parts blocks slots fault

variable {site} {base before middle after : World} {place : GeneratorId} {part : Part}
  {blocks : Generator.LoopBlocks} {invocation : Invocation} {visit : Visit}

/-! ## One call -/

/-- A part that has been built for a call is complete. -/
theorem Answers.completes (answers : site.Answers blocks invocation base visit after) :
    site.Completes base visit.part after := by
  obtain ⟨led, leads, -, rfl⟩ := answers.leads
  exact leads.completes answers.toBegun

/-- It leaves the order of blocks as its callback has left it. -/
theorem Answers.buildsNext (answers : site.Answers blocks invocation base visit after) :
    site.BuildsNext base visit.part after where
  toCompletes := answers.completes
  finds := answers.set.frame.order site.symbol
  leaves := by
    obtain ⟨led, -, layout, rfl⟩ := answers.leads
    exact layout.order site.symbol

/-- A block that is not the entry begins as it began. -/
theorem Progress.row_begins {mine : GeneratorId → Prop} {grows : BlockRef → Prop}
    (progress : site.Progress mine grows before after) {block : BlockRef} (known : before.Has block)
    (other : site.entry? ≠ some block) : before.row block <+: after.row block := by
  obtain ⟨front, added, same, -, front_nil, -⟩ := progress.row block known
  rw [same, front_nil other, List.nil_append]
  exact List.prefix_append _ _

/-- **What has been loaded is at the beginning of its block** from then on. -/
theorem Answers.begins_with (answers : site.Answers blocks invocation base visit after) :
    visit.part.opened.row visit.part.start <+: after.row visit.part.start := by
  obtain ⟨led, leads, -, rfl⟩ := answers.leads
  -- Neither the callback nor what leads the part on puts anything in front of the loads.
  have known := answers.toBuilt.has_start
  have worked := answers.advances.progress
  have calls := worked.row_begins known answers.apart
  have leads := leads.progress.row_begins (worked.has known) answers.apart
  rw [row_changeGenerator]
  exact calls.trans leads

/-- **A call takes no block out of its order** if the callback does not. -/
theorem Answers.order_subset (answers : site.Answers blocks invocation base visit after)
    (confines : site.Confines invocation.callback) :
    base.order site.symbol ⊆ after.order site.symbol := by
  obtain ⟨answer, calling⟩ := answers.calls
  have next := answers.buildsNext
  rw [next.leaves, ← next.finds]
  exact (confines _ _ _ _ _ answers.hosts calling).order

/-! ## Calls in a row -/

namespace AnswersEach

variable {invocations others : List Invocation} {visits further : List Visit}

/-- Callbacks have been called after others. -/
theorem append (first : site.AnswersEach blocks before invocations visits middle)
    (second : site.AnswersEach blocks middle others further after) :
    site.AnswersEach blocks before (invocations ++ others) (visits ++ further) after := by
  induction first with
  | nil => exact second
  | cons answers _ ih => exact .cons answers (ih second)

/-- The parts have been built one after the other. -/
theorem buildsEach (answers : site.AnswersEach blocks before invocations visits after) :
    site.BuildsEach before (visits.map Visit.part) after := by
  induction answers with
  | nil => rfl
  | cons answers _ ih => exact ⟨_, answers.buildsNext, ih⟩

/-- They begin where they should. -/
theorem starts_eq (answers : site.AnswersEach blocks before invocations visits after) :
    visits.map (·.part.start) = invocations.map Invocation.start := by
  induction answers with
  | nil => rfl
  | cons answers _ ih => rw [List.map_cons, List.map_cons, answers.starts, ih]

/-- Only the blocks have changed at which parts begin. -/
theorem progress (answers : site.AnswersEach blocks before invocations visits after)
    (holds : site.Holds before) :
    site.Progress nothing (· ∈ invocations.map Invocation.start) before after := by
  refine (answers.buildsEach.progress holds).weaken (fun _ _ => id) ?_
  rintro block - ⟨part, built, rfl⟩
  obtain ⟨visit, member, rfl⟩ := List.mem_map.mp built
  exact answers.starts_eq ▸ List.mem_map.mpr ⟨visit, member, rfl⟩

/-- **What has been loaded is at the beginning of the blocks** once all callbacks have been called. -/
theorem begins_with (answers : site.AnswersEach blocks before invocations visits after) {visit : Visit}
    (member : visit ∈ visits) : visit.part.opened.row visit.part.start <+: after.row visit.part.start := by
  induction answers with
  | nil => cases member
  | cons answers rest ih =>
      rcases List.mem_cons.mp member with rfl | later
      · -- Later calls put nothing in front of the loads either.
        have known := answers.completes.settled.has _ (answers.toBuilt.has (.inl rfl))
        exact answers.begins_with.trans
          ((rest.progress answers.completes.progress.holds).row_begins known answers.apart)
      · exact ih later

/-- **No block is taken out of its order** if no callback takes one out. -/
theorem order_subset (answers : site.AnswersEach blocks before invocations visits after)
    (confines : ∀ invocation ∈ invocations, site.Confines invocation.callback) :
    before.order site.symbol ⊆ after.order site.symbol := by
  induction answers with
  | nil => exact List.Subset.refl _
  | cons answers _ ih =>
      exact List.Subset.trans (answers.order_subset (confines _ List.mem_cons_self))
        (ih fun invocation member => confines invocation (List.mem_cons_of_mem _ member))

end AnswersEach

/-! ## The beginning of a call -/

/-- **All is set for a call** where a part of a loop may begin. -/
theorem Hosts.opens (hosts : site.Hosts base place) (blocks : Generator.LoopBlocks)
    (invocation : Invocation) (known : base.Has invocation.start) (blank : base.row invocation.start = [])
    (pointers : ∀ slot ∈ invocation.slots, ∃ target, slot.type = .pointer target) :
    let opening := base.joined
      (site.startingAt invocation.start (blockValue blocks.continue) blocks.exit)
    Generator.loopPart place invocation.start blocks base = .ok base.generators.length opening ∧
      ∃ arguments opened, site.Opens blocks invocation base arguments opened ∧
        Emits base.generators.length opening opened ∧
          (if invocation.isLoaded then
              Generator.loadSlots base.generators.length invocation.slots
            else pure (invocation.slots.map .operand) : Build (List Value)) opening =
            .ok arguments opened := by
  intro opening
  obtain ⟨child, entered, entering⟩ : ∃ child entered,
      Generator.loopPart place invocation.start blocks base = .ok child entered := ⟨_, _, rfl⟩
  obtain ⟨rfl, rfl⟩ := hosts.loopPart entering
  refine ⟨entering, ?_⟩
  have starts : opening.generator base.generators.length =
      site.startingAt invocation.start (blockValue blocks.continue) blocks.exit := by
    rw [World.generator_append, if_pos rfl]
  cases isLoaded : invocation.isLoaded with
  | false =>
      -- The slots are passed as they are, and the block stays empty.
      refine ⟨_, opening, ⟨blank, IsEffect.refl opening, [], fun block => ?_, ?_⟩,
        IsEffect.refl opening, rfl⟩
      · show base.row block = _
        split
        next here => rw [here, blank]
        next => rfl
      · rw [isLoaded]
        exact ⟨rfl, rfl⟩
  | true =>
      obtain ⟨loads, opened, loading, does, changes⟩ :=
        Generator.loadSlots_run (by rw [starts]; rfl) (by rw [starts]; rfl) pointers
      refine ⟨_, opened, ⟨blank, changes.toSameFrame, loads, fun block => ?_, ?_⟩,
        Generator.leads_loadSlots base.generators.length _ |>.of_ok loading, loading⟩
      · rw [changes.row]
        by_cases here : block = invocation.start
        · rw [if_pos ⟨here, known⟩, if_pos here]
          show base.row invocation.start ++ loads = loads
          rw [blank, List.nil_append]
        · rw [if_neg fun claimed => here claimed.1, if_neg here]
          rfl
      · rw [isLoaded]
        exact ⟨does, rfl⟩

/-! ## Leading on -/

/-- A generator that may go on is led on. -/
theorem leadTo_run {block : BlockRef} (here : (base.generator place).block = blockValue block)
    (goesOn : base.MayGoOn place) (target : Value) :
    ∃ after, Generator.leadTo place target base = .ok () after := by
  cases isFinished : (base.generator place).isFinished with
  | true =>
      -- Where a return has finished the generator already, nothing is left to do.
      refine ⟨base, ?_⟩
      simp only [Generator.leadTo, Bind.bind, EStateM.bind, get, getThe, MonadStateOf.get, EStateM.get,
        isFinished, if_true, pure, EStateM.pure]
  | false =>
      obtain ⟨value, emitted, emitting⟩ := Generator.emit_run here (goesOn block isFinished here)
        (.branch (Generator.branchTarget base target)) rfl
      refine ⟨finished place emitted, ?_⟩
      simp only [Generator.leadTo, Generator.branchTo, Bind.bind, EStateM.bind, get, getThe,
        MonadStateOf.get, EStateM.get, isFinished, Bool.false_eq_true, if_false, emitting]
      rfl

/-- A part that a callback has built leaves its generator where it may go on. -/
theorem Begun.mayGoOn (begun : site.Begun base part) {callback : Callback} {arguments : List Value}
    {answer : Value} (confines : site.Confines callback)
    (quiet : part.opened.endings part.start = [])
    (calling : callback.run (.generator part.place :: arguments) part.opened = .ok answer part.built) :
    part.built.MayGoOn part.place := by
  refine (confines _ _ _ _ _ begun.hosts calling).mayGoOn fun block _ here => ?_
  rw [begun.begins] at here
  cases here
  exact quiet

/-- **A condition leads on** if it is one. -/
theorem Begun.concludes_branchOn (begun : site.Begun base part) (blocks : Generator.LoopBlocks)
    (result : Value) (goesOn : part.built.MayGoOn part.place) :
    Concludes (Generator.branchOn part.place blocks result) part.built
      (fun _ after => Generator.branchOn part.place blocks result part.built = .ok () after)
      (fun fault => ∃ final, Generator.coerce part.place result (some conditionType) part.built =
        .error fault final) := by
  refine ⟨fun _ _ run => run, fun fault final run => ?_⟩
  rcases bind_eq_error.mp run with failed | ⟨seen, _, looked, run⟩
  · cases failed
  obtain ⟨rfl, rfl⟩ := get_eq_ok.mp looked
  cases isFinished : (part.built.generator part.place).isFinished with
  | true =>
      rw [isFinished] at run
      cases run
  | false =>
      rw [isFinished] at run
      rcases bind_eq_error.mp run with failed | ⟨tested, coerced, coercing, run⟩
      · exact ⟨final, failed⟩
      -- The condition changes no code, so its block has not ended, and the branch succeeds.
      obtain ⟨block, here⟩ := begun.exists_block
      have same := (Generator.leads_coerce part.place result _ : Leads SameCode _).of_ok coercing
      have there : (coerced.generator part.place).block = blockValue block :=
        same.toSameFrame.generator part.place ▸ here
      have free : coerced.endings block = [] := by
        rw [World.endings, same.row, ← World.endings]
        exact goesOn block isFinished here
      rcases bind_eq_error.mp run with failed | ⟨_, emitted, _, run⟩
      · obtain ⟨value, emitted, emitting⟩ := Generator.emit_run there free
          (.branchIf tested (blockValue (blocks.body.getD blocks.continue)) blocks.exit) rfl
        rw [failed] at emitting
        cases emitting
      · cases run

/-! ## The parts -/

variable {parts : Generator.LoopParts} {slots : List Operand}

/-- **Where a part of a loop may begin**: at a block that is there, empty and not the entry. -/
structure Ready (site : Construction) (base : World) (start : BlockRef) : Prop where
  /-- The block is there. -/
  known : base.Has start
  /-- It is empty. -/
  blank : base.row start = []
  /-- It is not the entry. -/
  apart : site.entry? ≠ some start

/-- **Callbacks are called one after the other**, or one of them is to blame. -/
abbrev AnswersOrFails (site : Construction) (parts : Generator.LoopParts)
    (blocks : Generator.LoopBlocks) (slots : List Operand) (base : World)
    (invocations : List Invocation) (step : Build Unit) : Prop :=
  Concludes step base (fun _ after => ∃ visits, site.AnswersEach blocks base invocations visits after)
    (site.PartFails parts blocks slots)

/-- **A part of a loop is built by one call** of its callback, if what is done then leads the part on. -/
theorem Hosts.concludes_part (hosts : site.Hosts base place)
    (called : invocation ∈ parts.invocations blocks slots) (ready : site.Ready base invocation.start)
    (pointers : ∀ slot ∈ invocation.slots, ∃ target, slot.type = .pointer target)
    (confines : site.Confines invocation.callback) {rest : GeneratorId → Value → Build Unit}
    (leadsOn : ∀ arguments opened answer built, let part : Part :=
      ⟨base.generators.length, invocation.start, opened, built, none⟩
      site.Opens blocks invocation base arguments opened →
        invocation.callback.run (.generator part.place :: arguments) opened = .ok answer built →
          site.Begun base part → built.MayGoOn part.place →
            Concludes (rest part.place answer) built
              (fun _ after => ∃ visit, site.Answers blocks invocation base visit after)
              (site.PartFails parts blocks slots)) :
    site.AnswersOrFails parts blocks slots base [invocation] (do
      let part ← Generator.loopPart place invocation.start blocks
      let values ← (if invocation.isLoaded then Generator.loadSlots part invocation.slots
        else pure (invocation.slots.map .operand) : Build (List Value))
      let answer ← invocation.callback.run (.generator part :: values)
      rest part answer) := by
  obtain ⟨entering, arguments, opened, set, loads, loading⟩ :=
    hosts.opens blocks invocation ready.known ready.blank pointers
  have calls : Concludes (invocation.callback.run (.generator base.generators.length :: arguments))
      opened (fun _ _ => True) (site.PartFails parts blocks slots) :=
    ⟨fun _ _ _ => trivial, fun fault final failed => .raises called set failed⟩
  refine concludes_bind_of_ok entering (concludes_bind_of_ok loading (calls.bind ?_))
  intro answer built calling _
  obtain ⟨begun, -⟩ : site.Begun base
      ⟨base.generators.length, invocation.start, opened, built, none⟩ ∧ _ :=
    hosts.toHolds.begun ready.known ready.apart rfl loads confines.trusts calling
  -- Loads end no block, so the callback finds its block open.
  have quiet : opened.endings invocation.start = [] := by
    rw [begun.quiet, World.endings, ready.blank]
    rfl
  refine (leadsOn arguments opened answer built set calling begun
    (begun.mayGoOn confines quiet calling)).imp ?_ fun _ => id
  rintro _ after - ⟨visit, answers⟩
  exact ⟨[visit], .cons answers (.nil after)⟩

/-- A part that may go on is led to a block. -/
theorem Begun.concludes_leadTo (begun : site.Begun base part) (target : BlockRef)
    (starts : part.start = invocation.start) (isNext : part.place = base.generators.length)
    {arguments : List Value} {answer : Value}
    (set : site.Opens blocks invocation base arguments part.opened)
    (calling : invocation.callback.run (.generator part.place :: arguments) part.opened =
      .ok answer part.built) (goesOn : part.built.MayGoOn part.place) :
    Concludes (do
        Generator.leadTo part.place (blockValue target)
        Generator.finish part.place : Build Unit) part.built
      (fun _ after => ∃ visit, site.Answers blocks invocation base visit after)
      (site.PartFails parts blocks slots) := by
  obtain ⟨here, standing⟩ := begun.exists_block
  obtain ⟨led, leading⟩ := leadTo_run standing goesOn (blockValue target)
  have again := begun.ledOn (some (.branch (blockValue target)))
  obtain ⟨leads, layout⟩ :=
    again.leadTo rfl begun.advances.progress.holds.refl (fun _ => rfl) leading
  exact concludes_bind_of_ok leading (concludes_of_ok rfl
    ⟨⟨_, arguments⟩, again, starts, isNext, set, ⟨answer, calling⟩, led, leads, layout, rfl⟩)

variable (pointers : ∀ slot ∈ slots, ∃ target, slot.type = .pointer target)
  (confines : ∀ callback ∈ parts.callbacks, site.Confines callback)
include pointers confines

/-- **The body of a loop is built by one call**, if there is one. -/
theorem Hosts.concludes_buildBody (hosts : site.Hosts base place)
    (isSome : blocks.body.isSome = parts.body.isSome)
    (ready : ∀ invocation ∈ parts.bodyCalls blocks slots, site.Ready base invocation.start) :
    site.AnswersOrFails parts blocks slots base (parts.bodyCalls blocks slots)
      (Generator.buildBody place blocks slots parts.body blocks.body) := by
  have called (invocation : Invocation) (member : invocation ∈ parts.bodyCalls blocks slots) :
      invocation ∈ parts.invocations blocks slots :=
    List.mem_append_left _ (List.mem_append_left _ member)
  unfold Generator.LoopParts.bodyCalls at *
  cases chosen : parts.body with
  | none =>
      have missing : blocks.body = none := by simpa [chosen] using isSome
      rw [missing]
      exact concludes_of_ok rfl ⟨[], .nil base⟩
  | some body =>
      rw [chosen] at isSome called ready
      obtain ⟨block, begins⟩ := Option.isSome_iff_exists.mp isSome
      rw [begins] at called ready ⊢
      have own : (⟨body, block, slots.take (body.taken slots.length), true⟩ : Invocation) ∈ [_] :=
        List.mem_singleton_self _
      simp only [Generator.buildBody, Generator.trimmed_eq]
      exact hosts.concludes_part (called _ own) (ready _ own)
        (fun slot member => pointers slot (List.mem_of_mem_take member))
        (confines body (by simp [Generator.LoopParts.callbacks, chosen]))
        fun _ _ _ _ set calling begun goesOn =>
          begun.concludes_leadTo blocks.continue rfl rfl set calling goesOn

/-- **The condition of a loop is built by one call**, if there is one. -/
theorem Hosts.concludes_buildCompare (hosts : site.Hosts base place)
    (ready : ∀ invocation ∈ parts.compareCalls blocks slots, site.Ready base invocation.start) :
    site.AnswersOrFails parts blocks slots base (parts.compareCalls blocks slots)
      (Generator.buildCompare place blocks slots parts.compare) := by
  have called (invocation : Invocation) (member : invocation ∈ parts.compareCalls blocks slots) :
      invocation ∈ parts.invocations blocks slots :=
    List.mem_append_left _ (List.mem_append_right _ member)
  unfold Generator.LoopParts.compareCalls at *
  cases chosen : parts.compare with
  | none => exact concludes_of_ok rfl ⟨[], .nil base⟩
  | some compare =>
      rw [chosen] at called ready
      have own : (⟨compare, blocks.header, slots.take (compare.taken slots.length), true⟩ :
          Invocation) ∈ [_] := List.mem_singleton_self _
      simp only [Generator.buildCompare, Generator.trimmed_eq]
      refine hosts.concludes_part (called _ own) (ready _ own)
        (fun slot member => pointers slot (List.mem_of_mem_take member))
        (confines compare (by simp [Generator.LoopParts.callbacks, chosen]))
        fun arguments opened answer built set calling begun goesOn => ?_
      have declines (fault : Fault)
          (declined : ∃ final, Generator.coerce base.generators.length answer (some conditionType)
            built = .error fault final) : site.PartFails parts blocks slots fault := by
        obtain ⟨final, failed⟩ := declined
        exact .declines (called _ own) chosen set calling failed
      refine ((begun.concludes_branchOn blocks answer goesOn).imp (fun _ _ _ => id) declines).bind
        fun _ led leading _ => concludes_of_ok rfl ?_
      obtain ⟨onward, -, leads, layout⟩ := begun.branchOn leading
      exact ⟨⟨_, arguments⟩, begun.ledOn onward, rfl, rfl, set, ⟨answer, calling⟩, led, leads, layout,
        rfl⟩

/-- **The increment of a loop is built by one call**, if there is one. -/
theorem Hosts.concludes_buildIncrement (hosts : site.Hosts base place)
    (isSome : blocks.increment.isSome = parts.increment.isSome)
    (ready : ∀ invocation ∈ parts.incrementCalls blocks slots, site.Ready base invocation.start) :
    site.AnswersOrFails parts blocks slots base (parts.incrementCalls blocks slots)
      (Generator.buildIncrement place blocks slots parts.increment blocks.increment) := by
  have called (invocation : Invocation) (member : invocation ∈ parts.incrementCalls blocks slots) :
      invocation ∈ parts.invocations blocks slots := List.mem_append_right _ member
  unfold Generator.LoopParts.incrementCalls at *
  cases chosen : parts.increment with
  | none =>
      have missing : blocks.increment = none := by simpa [chosen] using isSome
      rw [missing]
      exact concludes_of_ok rfl ⟨[], .nil base⟩
  | some increment =>
      rw [chosen] at isSome called ready
      obtain ⟨block, begins⟩ := Option.isSome_iff_exists.mp isSome
      obtain rfl : blocks.continue = block := by rw [Generator.LoopBlocks.continue, begins]; rfl
      rw [begins]
      have own : (⟨increment, blocks.continue, slots.take (increment.taken slots.length), false⟩ :
          Invocation) ∈ [_] := List.mem_singleton_self _
      simp only [Generator.buildIncrement, Generator.trimmed_eq]
      exact hosts.concludes_part (called _ own) (ready _ own)
        (fun slot member => pointers slot (List.mem_of_mem_take member))
        (confines increment (by simp [Generator.LoopParts.callbacks, chosen]))
        fun _ _ _ _ set calling begun goesOn =>
          begun.concludes_leadTo blocks.header rfl rfl set calling goesOn

/-! ## All parts -/

omit pointers confines in
/-- **Callbacks are called after others.** -/
theorem AnswersOrFails.bind {invocations others : List Invocation} {step : Build Unit}
    {next : Unit → Build Unit}
    (first : site.AnswersOrFails parts blocks slots base invocations step)
    (second : ∀ visits middle, site.AnswersEach blocks base invocations visits middle →
      site.AnswersOrFails parts blocks slots middle others (next ())) :
    site.AnswersOrFails parts blocks slots base (invocations ++ others) (step >>= next) := by
  refine Concludes.bind first ?_
  rintro _ middle - ⟨visits, answers⟩
  refine (second visits middle answers).imp ?_ fun _ => id
  rintro _ after - ⟨further, later⟩
  exact ⟨visits ++ further, answers.append later⟩

omit pointers confines in
/-- A part may still begin where none has begun. -/
theorem Ready.later {start : BlockRef} {invocations : List Invocation} {visits : List Visit}
    (ready : site.Ready base start) (holds : site.Holds base)
    (answers : site.AnswersEach blocks base invocations visits after)
    (free : start ∉ invocations.map Invocation.start) : site.Ready after start where
  known := (answers.progress holds).has ready.known
  blank := ((answers.progress holds).row_eq ready.known free ready.apart).trans ready.blank
  apart := ready.apart

/-- **The parts of a loop are built by just one call of each callback**, if they begin at different
blocks. -/
theorem Hosts.concludes_buildParts (hosts : site.Hosts base place)
    (body : blocks.body.isSome = parts.body.isSome)
    (increment : blocks.increment.isSome = parts.increment.isSome)
    (ready : ∀ invocation ∈ parts.invocations blocks slots, site.Ready base invocation.start)
    (apart : ((parts.invocations blocks slots).map Invocation.start).Nodup) :
    site.AnswersOrFails parts blocks slots base (parts.invocations blocks slots)
      (Generator.buildParts place parts blocks slots) := by
  have later {visits : List Visit} {done others : List Invocation} {middle : World}
      (answers : site.AnswersEach blocks base done visits middle)
      (ready : ∀ invocation ∈ others, site.Ready base invocation.start)
      (disjoint : ((done ++ others).map Invocation.start).Nodup) :
      ∀ invocation ∈ others, site.Ready middle invocation.start := by
    intro invocation member
    rw [List.map_append] at disjoint
    exact (ready invocation member).later hosts.toHolds answers fun begun =>
      (List.nodup_append.mp disjoint).2.2 _ begun _ (List.mem_map_of_mem member) rfl
  -- Each callback begins at a block where none before it has begun, so the block is still empty.
  unfold Generator.LoopParts.invocations at ready apart ⊢
  have both := (List.nodup_append.mp (List.map_append ▸ apart)).1
  rw [List.append_assoc]
  refine (hosts.concludes_buildBody pointers confines body fun invocation member =>
    ready invocation (List.mem_append_left _ (List.mem_append_left _ member))).bind
      fun visits bodied first => ?_
  have hosted := hosts.later (first.progress hosts.toHolds) id
  refine (hosted.concludes_buildCompare pointers confines (later first (fun invocation member =>
    ready invocation (List.mem_append_left _ (List.mem_append_right _ member))) both)).bind
      fun further compared second => ?_
  have hosted := hosted.later (second.progress hosted.toHolds) id
  exact hosted.concludes_buildIncrement pointers confines increment
    (later (first.append second) (fun invocation member =>
      ready invocation (List.mem_append_right _ member)) apart)

end Construction

end StructuredIR
