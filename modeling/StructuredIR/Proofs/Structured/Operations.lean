import StructuredIR.Proofs.Finished
import StructuredIR.Proofs.Structured.Builds

/-! # Operations of structured bodies

What comes to be built by operations that call nothing: instructions where the generator is, and
perhaps the end of its block. **`FreshBody.Adds`** says this of an operation with its name, as
accounts are kept; there is one lemma for each kind of operation. -/

namespace StructuredIR

open Build (Leads bind_eq_ok get_eq_ok map_eq_ok modify_eq_ok)

/-- An operation that leads nowhere halts a walk. -/
theorem Walker.leadsTo_of_targets {operation : Operation} (nowhere : operation.targets = [])
    (decide : Nat → Bool) (asked : Nat) : leadsTo decide asked operation = none := by
  cases operation with
  | branch target => cases nowhere
  | branchIf condition whenTrue whenFalse => cases nowhere
  | _ => rfl

namespace FreshBody

open FunctionBody

variable {body : FreshBody} {before middle after : World} {place : GeneratorId} {here : BlockRef}

variable (body) in
/-- **What an operation comes to** that calls nothing: instructions, and what its name says. -/
def Adds (place : GeneratorId) (here : BlockRef) (verb : String) (before after : World) : Prop :=
  ∃ more middle, body.Grows here more before middle ∧ Account.added place before after = more ∧
    body.Builds place (Account.onward after body.reference verb) middle after

/-- What an operation comes to is what is accounted for. -/
theorem Adds.builds {verb : String} (adds : body.Adds place here verb before after)
    (works : body.Works before place here) :
    body.Builds place
      (.seq (.run (Account.added place before after)) (Account.onward after body.reference verb))
      before after := by
  obtain ⟨more, middle, grows, rfl, builds⟩ := adds
  exact (grows.builds works).seq builds

/-- An operation whose name says nothing adds instructions. -/
theorem Grows.adds {more : List Instruction} {verb : String}
    (grows : body.Grows here more before after) (works : body.Works before place here)
    (plain : Account.onward after body.reference verb = .run []) :
    body.Adds place here verb before after :=
  ⟨more, after, grows, grows.added_eq works, plain ▸ (grows.works works).builds_refl⟩

/-! ## Ending a block and finishing -/

/-- Terminators are no part of what is added. -/
theorem Closes.added_eq {more : List Instruction} {operation : Operation} {closed : World}
    (works : body.Works before place here) (grows : body.Grows here more before middle)
    (closes : body.Closes here operation middle closed) {left : List BlockRef}
    (alters : body.Alters [] left closed after) :
    Account.added place before after = more := by
  obtain ⟨last, rfl, row⟩ := closes.code
  have code : body.code after here = body.code before here ++ (more ++ [last]) := by
    rw [alters.code_of_closed, row, grows.code, List.append_assoc]
    have inside := closes.alters.inside grows.opened.1
    refine (closes.alters.tidy.blocks here inside).resolve_left fun opened => ?_
    have claimed := (closes.alters.opens here).mp opened
    simp at claimed
  rw [FreshBody.added_eq works.tidy alters.tidy works.ready.function works.stands.here code,
    withoutTerminators_concat grows.straight closes.terminates]

/-- The world after a generator has been finished. -/
abbrev finished (place : GeneratorId) (world : World) : World :=
  world.changeGenerator place fun generator => { generator with isFinished := true }

/-- A generator that is there is finished after it has been finished. -/
theorem isFinished_finished {world : World} (inside : place < world.generators.length) :
    ((finished place world).generator place).isFinished = true := by
  rw [World.generator_changeGenerator, if_pos ⟨rfl, inside⟩]

/-- Nothing else is altered when a generator is finished. -/
theorem Alters.finish {taken left : List BlockRef} (alters : body.Alters taken left before middle)
    (part : GeneratorId) : body.Alters taken left before (finished part middle) :=
  alters.idly (alters.tidy.alters_of_generators _)

/-- **A generator that ends its block and is finished.** -/
theorem Closes.builds_finished {operation : Operation} {closed : World} {reading : Reading}
    (works : body.Works middle place here) (closes : body.Closes here operation middle closed)
    (reads : body.Reads place reading middle (finished place closed)) :
    body.Builds place reading middle (finished place closed) := by
  have inside : place < closed.generators.length := closes.generators ▸ works.ready.inside
  have isFinished := isFinished_finished inside
  refine ⟨?_, ⟨here, ?_, ?_⟩, ?_, reads⟩
  · exact IsEffect.trans
      ((Untouched.of_generators _ closes.generators).moves works.ready.inside)
      (Moves.of_finish place closed)
  · rw [World.generator_changeGenerator, if_pos ⟨rfl, inside⟩]
    show (closed.generator place).block = _
    rw [World.generator, closes.generators]
    exact works.stands.here
  · exact (closes.alters.finish place).inside works.opened.1
  · rw [works.stands.stand_eq, World.stand_of_isFinished isFinished]
    exact closes.alters.finish place

/-- The world after a generator has been positioned at a block. -/
abbrev moved (place : GeneratorId) (block : BlockRef) (world : World) : World :=
  world.changeGenerator place fun generator => { generator with block := .operand (.block block) }

/-- A generator at work is at the block at which it has been positioned. -/
theorem Works.standsAt_moved {closed : World} (works : body.Works before place here)
    (untouched : Untouched before.generators.length before closed) (exit : BlockRef) :
    (moved place exit closed).StandsAt place exit := by
  have inside : place < closed.generators.length :=
    Nat.lt_of_lt_of_le works.ready.inside untouched.grows
  have changed : (moved place exit closed).generator place =
      { before.generator place with block := .operand (.block exit) } := by
    rw [World.generator_changeGenerator, if_pos ⟨rfl, inside⟩,
      untouched.same place works.ready.inside]
  constructor
  · rw [changed]
    exact works.stands.unfinished
  · rw [changed]

/-- **A generator that goes on at another block**, which is the only one that is left open of those
at which it was and those that are new. -/
theorem Works.builds_moved {closed : World} {exit : BlockRef} {reading : Reading}
    (works : body.Works before place here)
    (untouched : Untouched before.generators.length before closed)
    (alters : body.Alters [here] [exit] before closed)
    (reads : body.Reads place reading before (moved place exit closed)) :
    body.Builds place reading before (moved place exit closed) := by
  have stands := works.standsAt_moved untouched exit
  have opened := alters.open_of_mem (List.mem_singleton_self exit)
  refine ⟨?_, ⟨exit, stands.here, ?_⟩, ?_, reads⟩
  · exact IsEffect.trans (untouched.moves works.ready.inside) (Moves.of_moveTo place _ closed)
  · exact (alters.tidy.alters_of_generators _).inside opened.1
  · rw [works.stands.stand_eq, stands.stand_eq]
    exact alters.trans ((alters.tidy.alters_of_generators _).frame opened List.not_mem_nil)

/-- What extends the code after generators have changed extends the code before that. -/
theorem extends_of_generators {generators : List Generator} {code : BlockRef → List Instruction}
    (extended : body.Extends { before with generators } code) (tidy : body.Tidy before) :
    body.Extends before code :=
  extended.of_alters (tidy.alters_of_generators _)

/-- What comes to be built by an operation that adds instructions, ends the block and finishes the
generator. -/
theorem Closes.adds {more : List Instruction} {operation : Operation} {closed : World}
    {verb : String} (works : body.Works before place here)
    (grows : body.Grows here more before middle)
    (closes : body.Closes here operation middle closed)
    (reads : body.Reads place (Account.onward (finished place closed) body.reference verb) middle
      (finished place closed)) :
    body.Adds place here verb before (finished place closed) :=
  ⟨more, middle, grows,
    closes.added_eq works grows (closes.alters.tidy.alters_of_generators _),
    closes.builds_finished (grows.works works) reads⟩

/-! ## Branches -/

/-- An instruction that a generator at work adds to end its block. -/
theorem Works.closes {operation : Operation} {value : Operand}
    (works : body.Works before place here) (terminates : operation.isTerminator = true)
    (goes : ∀ target ∈ operation.targets, body.IsTarget before target)
    (run : Generator.emit place operation before = .ok value after) :
    body.Closes here operation before after := by
  rw [Generator.emit_of_block works.stands.here] at run
  exact works.tidy.closes_of_emit works.opened terminates goes run

/-- A branch of a generator at work ends its block and finishes the generator. -/
theorem Works.branchTo {target : BlockRef} (works : body.Works before place here)
    (goes : body.IsTarget before (.operand (.block target)))
    (run : Generator.branchTo place (.operand (.block target)) before = .ok () after) :
    ∃ closed, after = finished place closed ∧
      body.Closes here (.branch (.operand (.block target))) before closed := by
  obtain ⟨seen, _, looked, run⟩ := bind_eq_ok.mp run
  obtain ⟨rfl, rfl⟩ := get_eq_ok.mp looked
  obtain ⟨_, closed, emitting, run⟩ := bind_eq_ok.mp run
  refine ⟨closed, (modify_eq_ok.mp run).symm, works.closes rfl (fun value member => ?_) emitting⟩
  rw [List.mem_singleton.mp member]
  exact goes

/-- A branch out of the loop. -/
theorem Works.leaveLoop {value : Value} (works : body.Works before place here)
    (run : Generator.leaveLoop place before = .ok value after) :
    body.Adds place here "brk" before after := by
  obtain ⟨run, -⟩ := Generator.actUnlessFinished_ok works.stands.unfinished run
  obtain ⟨seen, _, looked, run⟩ := bind_eq_ok.mp run
  obtain ⟨rfl, rfl⟩ := get_eq_ok.mp looked
  by_cases given : (before.generator place).loopExit = .none
  · rw [given] at run
    cases run
  · have goes := works.ready.loopExit given
    obtain ⟨target, same, -⟩ := id goes
    rw [same] at run goes
    obtain ⟨closed, rfl, closes⟩ := works.branchTo goes run
    refine closes.adds works works.grows_refl fun there stands code extended decide turns asked => ?_
    obtain rfl := works.eq stands
    have extended := extends_of_generators extended closes.alters.tidy
    exact ⟨1, ⟨target, 0⟩, closes.walks works.opened extended rfl, same, rfl⟩

/-- A branch to the next turn of the loop. -/
theorem Works.nextTurn {value : Value} (works : body.Works before place here)
    (run : Generator.nextTurn place before = .ok value after) :
    body.Adds place here "cont" before after := by
  obtain ⟨run, -⟩ := Generator.actUnlessFinished_ok works.stands.unfinished run
  obtain ⟨seen, _, looked, run⟩ := bind_eq_ok.mp run
  obtain ⟨rfl, rfl⟩ := get_eq_ok.mp looked
  by_cases given : (before.generator place).loopBlock = .none
  · rw [given] at run
    cases run
  · have goes := works.ready.loopBlock given
    obtain ⟨target, same, -⟩ := id goes
    rw [same] at run goes
    obtain ⟨closed, rfl, closes⟩ := works.branchTo goes run
    refine closes.adds works works.grows_refl fun there stands code extended decide turns asked => ?_
    obtain rfl := works.eq stands
    have extended := extends_of_generators extended closes.alters.tidy
    exact ⟨1, ⟨target, 0⟩, closes.walks works.opened extended rfl, ⟨same, rfl⟩, Nat.one_pos⟩

/-! ## Returns -/

/-- The return block holds what is executed in front of a shared return. -/
theorem Tidy.code_exit (tidy : body.Tidy before) {exit : BlockRef}
    (known : body.exit? before = some exit) :
    ∃ last : Instruction, body.code before exit = before.returned body.reference ++ [last] ∧
      IsStraight (before.returned body.reference) ∧ last.operation.isTerminator = true ∧
        last.operation.targets = [] := by
  obtain ⟨-, other, front, last, same, straight, terminates, goes⟩ := tidy.exit exit known
  have returned : before.returned body.reference = front := by
    have known : (before.function body.reference).exit = some exit := known
    simp only [World.returned, known]
    rw [← code_of_ne other, same, withoutTerminators_concat straight terminates]
  refine ⟨last, by rw [same, returned], returned ▸ straight, terminates, ?_⟩
  exact List.eq_nil_iff_forall_not_mem.mpr goes

/-- **From the return block** a walk executes what is in front of a shared return, and stops. -/
theorem Tidy.carries_exit (tidy : body.Tidy before) {exit : BlockRef}
    (known : body.exit? before = some exit) {code : BlockRef → List Instruction}
    (extended : body.Extends before code) {decide : Nat → Bool} {turns asked : Nat} (exits : Exits) :
    Carries code decide turns ⟨⟨exit, 0⟩, asked⟩
      ⟨.returns, asked, before.returned body.reference⟩ exits := by
  obtain ⟨last, same, straight, terminates, nowhere⟩ := tidy.code_exit known
  have there := extended exit (tidy.exit exit known).1
  rw [same] at there
  refine ⟨_, ⟨_, _⟩, Walks.straight straight [] ((List.prefix_append _ _).trans there), ?_⟩
  show Walker.next code decide _ = none
  rw [List.nil_append, Walker.next_of_isTerminator there terminates,
    Walker.leadsTo_of_targets nowhere]
  rfl

/-- The return block is set up without adding anything. -/
theorem Works.setUpReturn {exit : BlockRef} (works : body.Works before place here)
    (run : Function.setUpReturn body.reference before = .ok exit after) :
    body.Grows here [] before after ∧ body.exit? after = some exit := by
  obtain ⟨alters, known, generators⟩ := works.tidy.setUpReturn_ok run
  exact ⟨.of_alters alters works.opened generators, known⟩

/-- The value to return is stored where the generator is. -/
theorem Works.emits {Result : Type} {step : Build Result} {value : Result}
    (works : body.Works before place here) (emits : Leads (Emits place) step)
    (run : step before = .ok value after) : ∃ more, body.Grows here more before after :=
  Grows.of_emits works.tidy works.opened works.stands.here (emits.of_ok run)

/-- Whether the function yields nothing is known to a generator at work. -/
theorem Works.isVoid_run (works : body.Works before place here) :
    Generator.isVoid place before = .ok (decide (body.result = .void)) before :=
  FunctionBody.isVoid_run works.tidy.stands works.tidy.result works.ready.function

/-- A return block is a place to go to. -/
theorem Tidy.isTarget_exit (tidy : body.Tidy before) {exit : BlockRef}
    (known : body.exit? before = some exit) : body.IsTarget before (.operand (.block exit)) :=
  ⟨exit, rfl, (tidy.exit exit known).1, (tidy.exit exit known).2.1⟩

/-- What is read off a block that ends with a return in place. -/
theorem Closes.reads_returns {operation : Operation} {closed : World}
    (works : body.Works middle place here) (closes : body.Closes here operation middle closed)
    (nowhere : operation.targets = []) :
    body.Reads place (.returns []) middle (finished place closed) := by
  intro there stands code extended decide turns asked
  obtain rfl := works.eq stands
  have extended := extends_of_generators extended closes.alters.tidy
  exact ⟨0, _, .stay _, closes.next_eq_none works.opened extended
    (Walker.leadsTo_of_targets nowhere decide asked)⟩

/-- **A direct return.** -/
theorem Works.returnDirectly {given value : Value} (works : body.Works before place here)
    (run : Generator.returnDirectly place given before = .ok value after) :
    body.Adds place here "sret" before after := by
  obtain ⟨run, -⟩ := Generator.actUnlessFinished_ok works.stands.unfinished run
  obtain ⟨isVoid, _, tested, run⟩ := bind_eq_ok.mp run
  rw [works.isVoid_run] at tested
  cases tested
  cases isVoid : decide (body.result = .void) <;> rw [isVoid] at run
  · rw [if_neg Bool.false_ne_true] at run
    split at run
    · cases run
    obtain ⟨seen, _, looked, run⟩ := bind_eq_ok.mp run
    obtain ⟨rfl, rfl⟩ := get_eq_ok.mp looked
    obtain ⟨block, _, positioned, run⟩ := bind_eq_ok.mp run
    rw [Generator.position_of_block works.stands.here] at positioned
    cases positioned
    obtain ⟨operand, coerced, coercing, run⟩ := bind_eq_ok.mp run
    obtain ⟨_, closed, emitting, run⟩ := bind_eq_ok.mp run
    obtain rfl := modify_eq_ok.mp run
    have grows : body.Grows here [] before coerced :=
      .of_sameCode works.tidy works.opened ((Generator.leads_coerce place given _).of_ok coercing)
    have closes := (grows.works works).tidy.closes_of_emit grows.opened rfl
      (fun _ member => (List.not_mem_nil member).elim) emitting
    exact closes.adds works grows (closes.reads_returns (grows.works works) rfl)
  · rw [if_pos rfl] at run
    obtain ⟨_, closed, emitting, run⟩ := bind_eq_ok.mp run
    obtain rfl := modify_eq_ok.mp run
    have closes := works.closes rfl (fun _ member => (List.not_mem_nil member).elim) emitting
    exact closes.adds works works.grows_refl (closes.reads_returns works rfl)

/-- **A shared return.** -/
theorem Works.returnShared {given value : Value} (works : body.Works before place here)
    (run : Generator.returnShared place given before = .ok value after) :
    body.Adds place here "ret" before after := by
  obtain ⟨run, -⟩ := Generator.actUnlessFinished_ok works.stands.unfinished run
  obtain ⟨isVoid, _, tested, run⟩ := bind_eq_ok.mp run
  rw [works.isVoid_run] at tested
  cases tested
  cases isVoid : decide (body.result = .void) <;> rw [isVoid] at run
  · rw [if_neg Bool.false_ne_true] at run
    obtain ⟨seen, _, looked, run⟩ := bind_eq_ok.mp run
    obtain ⟨rfl, rfl⟩ := get_eq_ok.mp looked
    rw [works.ready.function] at run
    obtain ⟨exit, entered, setting, run⟩ := bind_eq_ok.mp run
    obtain ⟨_, stored, storing, run⟩ := bind_eq_ok.mp run
    obtain ⟨_, closed, emitting, run⟩ := bind_eq_ok.mp run
    obtain rfl := modify_eq_ok.mp run
    -- The return block and the store are there before the block is ended.
    obtain ⟨sets, known⟩ := works.setUpReturn setting
    obtain ⟨more, stores⟩ := (sets.works works).emits (Generator.leads_storeResult place given) storing
    have grows := sets.trans stores
    have known := stores.alters.exit exit known
    have worksThen := grows.works works
    have closes : body.Closes here (.branch (.operand (.block exit))) stored closed := by
      refine worksThen.closes rfl (fun value member => ?_) emitting
      rw [List.mem_singleton.mp member]
      exact worksThen.tidy.isTarget_exit known
    have tidy := closes.alters.tidy
    have known := closes.alters.exit exit known
    refine closes.adds works grows ?_
    have reading : Account.onward (finished place closed) body.reference "ret" =
        .returns (closed.returned body.reference) := by
      refine if_neg fun claimed => of_decide_eq_false isVoid ?_
      exact (result_routineOf tidy.stands tidy.result).symm.trans claimed
    rw [reading]
    intro there stands code extended decide turns asked
    obtain rfl := worksThen.eq stands
    have extended := extends_of_generators extended tidy
    exact ((tidy.carries_exit known extended (body.exits place stored _)).behind
      (closes.walks grows.opened extended rfl)).weaken (fun _ => id) (fun _ => id) (fun _ => id)
      (fun _ _ => Nat.zero_le _) (Nat.le_add_left _ _)
  · rw [if_pos rfl] at run
    obtain ⟨_, closed, emitting, run⟩ := bind_eq_ok.mp run
    obtain rfl := modify_eq_ok.mp run
    have closes := works.closes rfl (fun _ member => (List.not_mem_nil member).elim) emitting
    have tidy := closes.alters.tidy
    refine closes.adds works works.grows_refl ?_
    have reading : Account.onward (finished place closed) body.reference "ret" = .returns [] :=
      if_pos ((result_routineOf tidy.stands tidy.result).trans (of_decide_eq_true isVoid))
    rw [reading]
    exact closes.reads_returns works rfl

/-- **A value to return that is stored in advance.** -/
theorem Works.presetReturn {given value : Value} (works : body.Works before place here)
    (run : Generator.presetReturn place given before = .ok value after) :
    ∃ more, body.Grows here more before after := by
  obtain ⟨run, -⟩ := Generator.actUnlessFinished_ok works.stands.unfinished run
  obtain ⟨isVoid, _, tested, run⟩ := bind_eq_ok.mp run
  rw [works.isVoid_run] at tested
  cases tested
  split at run
  · cases run
    exact ⟨[], works.grows_refl⟩
  · split at run
    · cases run
    obtain ⟨seen, _, looked, run⟩ := bind_eq_ok.mp run
    obtain ⟨rfl, rfl⟩ := get_eq_ok.mp looked
    rw [works.ready.function] at run
    obtain ⟨exit, entered, setting, storing⟩ := bind_eq_ok.mp run
    obtain ⟨sets, known⟩ := works.setUpReturn setting
    obtain ⟨more, stores⟩ := (sets.works works).emits (Generator.leads_storeResult place given) storing
    exact ⟨_, sets.trans stores⟩

/-- A new block is open beside the block at which a generator is. -/
theorem Tidy.appendNamed_beside (tidy : body.Tidy before) (opened : body.Open before here)
    {base : String} {block : BlockRef}
    (run : Function.appendNamed body.reference base before = .ok block after) :
    body.Alters [here] [here, block] before after ∧ block ≠ here ∧
      body.code after here = body.code before here ∧ body.code after block = [] ∧
        body.IsTarget after (.operand (.block block)) ∧ after.generators = before.generators := by
  obtain ⟨rfl, alters, blank, generators⟩ := tidy.appendNamed_ok run
  refine ⟨alters.frame opened List.not_mem_nil, fun same => ?_,
    alters.keeps here opened List.not_mem_nil, blank,
    alters.isTarget_of_mem tidy (List.mem_singleton_self _) List.not_mem_nil, generators⟩
  exact not_isInside_next before (same ▸ opened.1)

/-- **A conditional return.** Its generator goes on at a new block. -/
theorem Works.returnIf {condition given value : Value} (works : body.Works before place here)
    (run : Generator.returnIf place condition given .none before = .ok value after) :
    body.Adds place here "cret" before after := by
  obtain ⟨run, -⟩ := Generator.actUnlessFinished_ok works.stands.unfinished run
  obtain ⟨seen, _, looked, run⟩ := bind_eq_ok.mp run
  obtain ⟨rfl, rfl⟩ := get_eq_ok.mp looked
  rw [works.ready.function] at run
  obtain ⟨exit, entered, setting, run⟩ := bind_eq_ok.mp run
  obtain ⟨tested, coerced, coercing, run⟩ := bind_eq_ok.mp run
  obtain ⟨_, stored, storing, run⟩ := bind_eq_ok.mp run
  obtain ⟨target, prepared, adding, run⟩ := bind_eq_ok.mp run
  obtain ⟨_, closed, emitting, run⟩ := bind_eq_ok.mp run
  obtain ⟨next, appending, rfl⟩ := map_eq_ok.mp adding
  obtain rfl := modify_eq_ok.mp run
  -- The return block and the store are there before the new block comes up.
  obtain ⟨sets, known⟩ := works.setUpReturn setting
  have coerces : body.Grows here [] entered coerced :=
    .of_sameCode sets.alters.tidy sets.opened
      ((Generator.leads_coerce place condition _).of_ok coercing)
  have grows := sets.trans coerces
  obtain ⟨more, stores⟩ := (grows.works works).emits (Generator.leads_storeResult place given) storing
  have grows := grows.trans stores
  have worksThen := grows.works works
  obtain ⟨adds, other, row, blank, goes, generators⟩ :=
    worksThen.tidy.appendNamed_beside worksThen.opened appending
  have untouched := Untouched.of_generators stored.generators.length generators
  have worksAt := worksThen.later untouched adds (adds.open_of_mem List.mem_cons_self)
  have known := adds.exit exit (stores.alters.exit exit (coerces.alters.exit exit known))
  have closes : body.Closes here
      (.branchIf tested (.operand (.block exit)) (.operand (.block next))) prepared closed := by
    refine worksAt.closes rfl (fun value member => ?_) emitting
    rcases List.mem_cons.mp member with rfl | member
    · exact worksAt.tidy.isTarget_exit known
    · rw [List.mem_singleton.mp member]
      exact goes
  have known := closes.alters.exit exit known
  -- The new block is left open, and nothing is in it yet.
  obtain ⟨alters, same⟩ := closes.beside adds other
  rw [blank] at same
  refine ⟨_, stored, grows, ?_, ?_⟩
  · obtain ⟨last, does, code⟩ := closes.code
    have terminates : last.operation.isTerminator = true := does ▸ rfl
    rw [row, grows.code, List.append_assoc] at code
    have tidy := alters.tidy.alters_of_generators
      ((moved place next closed).generators)
    exact (FreshBody.added_eq works.tidy tidy.tidy works.ready.function works.stands.here
      code).trans (withoutTerminators_concat grows.straight terminates)
  · have untouched : Untouched stored.generators.length stored closed :=
      IsEffect.trans untouched (.of_generators _ closes.generators)
    refine worksThen.builds_moved untouched alters ?_
    intro there stands code extended decide turns asked
    obtain rfl := worksThen.eq stands
    have extended := extends_of_generators extended closes.alters.tidy
    have forks := closes.forks worksAt.opened extended decide asked
    rw [row] at forks
    show Carries _ _ _ _ ((Reading.returnsIf (closed.returned body.reference)).exec decide turns
      asked) _
    rw [Reading.exec]
    cases holds : decide asked <;> rw [holds] at forks
    · refine ⟨1, ⟨next, 0⟩, forks, ⟨worksThen.standsAt_moved untouched next, ?_⟩, Nat.zero_le _⟩
      show 0 = (body.code closed next).length
      rw [same]
      rfl
    · exact ((alters.tidy.carries_exit known extended (body.exits place stored _)).behind
        forks).weaken (fun _ => id) (fun _ => id) (fun _ => id)
        (fun _ _ => Nat.zero_le _) (Nat.le_add_left _ _)

/-! ## Attributes -/

/-- Looking at an attribute of a generator may set up the return block, and does nothing else. -/
theorem Tidy.attribute_ok (tidy : body.Tidy before) {name : String} {value : Value}
    (function : (before.generator place).function = body.reference)
    (run : Script.attributeOf (.generator place) name before = .ok value after) :
    body.Alters [] [] before after ∧ after.generators = before.generators := by
  have nothing : body.Alters [] [] before before ∧ before.generators = before.generators :=
    ⟨.refl tidy nofun, rfl⟩
  obtain ⟨seen, _, looked, run⟩ := bind_eq_ok.mp run
  obtain ⟨rfl, rfl⟩ := get_eq_ok.mp looked
  cases known : Script.generatorAttribute? before place name with
  | none =>
      rw [Script.ownAttribute?, known] at run
      cases own : (Value.generator place).methodSignature? name with
      | none =>
          rw [own] at run
          cases run
      | some signature =>
          rw [own] at run
          cases run
          exact nothing
  | some own =>
      have run : own before = .ok value after := by
        rw [Script.ownAttribute?, known] at run
        exact run
      unfold Script.generatorAttribute? at known
      split at known
      all_goals cases known
      all_goals try (cases run; exact nothing)
      · rw [function] at run
        obtain ⟨exit, entered, setting, run⟩ := bind_eq_ok.mp run
        cases run
        obtain ⟨alters, -, generators⟩ := tidy.setUpReturn_ok setting
        exact ⟨alters, generators⟩
      · have same := ((Generator.leads_position place).bind fun _ => Leads.pure _ :
          Leads SameCode (do
            let _ ← Generator.position place
            return Value.foreign .position)).of_ok run
        exact ⟨tidy.alters_of_sameCode same, same.generators⟩

end FreshBody

/-! ## Operations by name -/

namespace Script

variable {call : Call} {place : GeneratorId} {verb : String} {action : Build Value}
  {world : World} {reference : FunctionRef}

/-- Operations on numbers lead control nowhere. -/
theorem onward_onNumbers? (known : onNumbers? call place verb = some action) :
    Account.onward world reference verb = .run [] := by
  unfold onNumbers? at known
  split at known <;> first | rfl | cases known

/-- Conversions lead control nowhere. -/
theorem onward_onTypes? (known : onTypes? call place verb = some action) :
    Account.onward world reference verb = .run [] := by
  unfold onTypes? at known
  split at known <;> first | rfl | cases known

/-- Operations on memory lead control nowhere. -/
theorem onward_onMemory? (known : onMemory? call place verb = some action) :
    Account.onward world reference verb = .run [] := by
  unfold onMemory? at known
  split at known <;> first | rfl | cases known

end Script

namespace FreshBody

variable {body : FreshBody} {before middle after : World} {place : GeneratorId} {here : BlockRef}

/-- **An operation of a generator at work** that calls nothing comes to what its name says. -/
theorem Works.operation {verb : String} {interpret : Value → Callback} {positional : List Value}
    {named : Dictionary String Value} {value : Value} (works : body.Works before place here)
    (structured : (Request.operation verb positional named).IsStructured)
    (plain : verb ∉ ["cond", "lp", "call"])
    (run : (Script.onGenerator? ⟨interpret, positional, named⟩ place verb).getD
      (throw .missingAttribute) before = .ok value after) :
    body.Adds place here verb before after := by
  unfold Script.onGenerator? at run
  cases numbers : Script.onNumbers? ⟨interpret, positional, named⟩ place verb with
  | some action =>
      rw [numbers] at run
      obtain ⟨more, grows⟩ := works.emits (Script.leads_onNumbers? numbers) run
      exact grows.adds works (Script.onward_onNumbers? numbers)
  | none =>
  cases types : Script.onTypes? ⟨interpret, positional, named⟩ place verb with
  | some action =>
      rw [numbers, types] at run
      obtain ⟨more, grows⟩ := works.emits (Script.leads_onTypes? types) run
      exact grows.adds works (Script.onward_onTypes? types)
  | none =>
  cases memory : Script.onMemory? ⟨interpret, positional, named⟩ place verb with
  | some action =>
      rw [numbers, types, memory] at run
      obtain ⟨more, grows⟩ := works.emits (Script.leads_onMemory? memory) run
      exact grows.adds works (Script.onward_onMemory? memory)
  | none =>
  rw [numbers, types, memory] at run
  cases blocks : Script.onBlocks? ⟨interpret, positional, named⟩ place verb with
  | some action =>
      rw [blocks] at run
      unfold Script.onBlocks? at blocks
      split at blocks <;> cases blocks
      all_goals first
        | exact absurd (by decide) structured.1
        | exact absurd (by decide) plain
        | exact works.leaveLoop run
        | exact works.nextTurn run
  | none =>
  rw [blocks] at run
  cases functions : Script.onFunctions? ⟨interpret, positional, named⟩ place verb with
  | some action =>
      rw [functions] at run
      unfold Script.onFunctions? at functions
      split at functions <;> cases functions
      · exact absurd (by decide) plain
      · have same : SameCode before after := (Generator.leads_lookUpGlobal place _).of_ok run
        exact (Grows.of_sameCode works.tidy works.opened same).adds works rfl
      · exact works.returnShared run
      · have continuation : Script.Call.value ⟨interpret, positional, named⟩ 2 "continuation" =
            .none := structured.2
        rw [continuation] at run
        exact works.returnIf run
      · exact works.returnDirectly run
      · obtain ⟨more, grows⟩ := works.presetReturn run
        exact grows.adds works rfl
  | none =>
      rw [functions] at run
      cases run

end FreshBody

end StructuredIR
