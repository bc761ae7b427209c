import StructuredIR.Proofs.Returns.Operations

/-! # The return funnel

All shared returns of a function lead to one block, whatever its generators are asked to do and
whichever operations fail, as long as no generator is positioned at that block.

* **`FunctionBody.Begins`** describes the worlds in which a function has an entry and has shared no
  return yet.
* **`FunctionBody.Funnel`** describes what there is of shared returns in a world: nothing, or a
  return block that is in order once and returns what the slot at the start of the entry holds.
* **`FunctionBody.funnel_of_client`** says that there is nothing else in any world that a client of
  the function visits, and that it stays what it is. -/

namespace StructuredIR

open Build (bind_eq_ok get_eq_ok modify_eq_ok pure_eq_ok)

/-- The instruction at the end of a block, if there is one. -/
def World.lastOperation? (world : World) (place : BlockRef) : Option Operation :=
  (world.row place).getLast?.map Instruction.operation

/-- A generator that is there, not finished, and positioned at a block that is there. -/
structure World.IsOpenAt (world : World) (place : GeneratorId) (block : BlockRef) : Prop where
  /-- The generator is there. -/
  isThere : place < world.generators.length
  /-- It is not finished. -/
  unfinished : (world.generator place).isFinished = false
  /-- It is positioned at the block. -/
  here : (world.generator place).block = .operand (.block block)
  /-- The block is there. -/
  inside : block.place < world.blockCount block.routine

/-- A generator of a function, or one that is still to come. -/
def World.MayBuild (world : World) (reference : FunctionRef) (place : GeneratorId) : Prop :=
  place < world.generators.length → (world.generator place).function = reference

namespace FunctionBody

variable (body : FunctionBody)

/-- **A function begins**: it stands for a routine and has an entry, but neither a return block nor
a slot. -/
structure Begins (world : World) : Prop where
  /-- The function is there. -/
  isThere : (world.function? body.reference).isSome
  /-- It stands for its routine. -/
  stands : world.functionSymbol body.reference = body.symbol
  /-- It begins at its entry. -/
  entry : (world.function body.reference).entry = some body.entry
  /-- Its routine is there and yields what the function yields. -/
  result : (world.routine? body.symbol).map Routine.result = some body.result
  /-- The entry is a block of the routine. -/
  entryInside : body.entry.routine = body.symbol ∧ body.entry.place < body.blockCount world
  /-- Only blocks that are there are in order. -/
  ordered : ∀ place ∈ world.order body.symbol, place < body.blockCount world
  /-- Generators are positioned only at blocks that are there. -/
  positioned (place : GeneratorId) (block : Nat) : place < world.generators.length →
    (world.generator place).block = .operand (.block ⟨body.symbol, block⟩) →
      block < body.blockCount world
  /-- There is no return block. -/
  exit : body.exit? world = none
  /-- There is no slot. -/
  slot : body.slot? world = none

/-- **The funnel** of a function in a world: all that there is of shared returns. -/
structure Funnel (outset : List Instruction) (world : World) : Prop where
  /-- As long as there is no return block, there is no slot. -/
  none : body.exit? world = none → body.slot? world = none
  /-- A return block is another block of the routine than the entry. -/
  other (exit : BlockRef) : body.exit? world = some exit →
    exit.routine = body.symbol ∧ exit ≠ body.entry
  /-- It is in order once. -/
  once (exit : BlockRef) : body.exit? world = some exit →
    (world.order body.symbol).count exit.place = 1
  /-- With a return block there is a slot, if there has to be one. -/
  slot (exit : BlockRef) : body.exit? world = some exit → body.HasSlot outset world
  /-- A return block returns what the slot holds. -/
  returns (exit : BlockRef) : body.exit? world = some exit → body.Returns exit world

/-- The clients of a function ask its generators for anything but to be positioned at its return
block. -/
def AvoidsExit (world final : World) (place : GeneratorId) (request : Request) : Prop :=
  world.MayBuild body.reference place ∧
    ∀ exit, body.exit? final = some exit → request.target ≠ .operand (.block exit)

variable {body}

/-- A request that positions no generator avoids the return block. -/
theorem AvoidsExit.of_target {world final : World} {place : GeneratorId} {request : Request}
    (owned : world.MayBuild body.reference place) (target : request.target = .none) :
    body.AvoidsExit world final place request :=
  ⟨owned, fun _ _ same => nomatch target.symm.trans same⟩

/-- A function that begins is one with shared returns, wherever they will lead to. -/
theorem Begins.holds {world : World} (begins : body.Begins world) {exit : BlockRef}
    (routine : exit.routine = body.symbol) :
    ReturnSite.Holds ⟨body, exit, world.row body.entry, world.MayBuild body.reference⟩ world where
  isThere := begins.isThere
  stands := begins.stands
  entry := begins.entry
  result := begins.result
  entryInside := begins.entryInside
  ordered := begins.ordered
  fresh place beyond inside := absurd inside (Nat.not_lt.mpr beyond)
  own place inside owned := owned inside
  clear place inside same := by
    refine ⟨fun there => ?_, begins.positioned place exit.place inside (by rw [same, ← routine])⟩
    have missing := begins.exit
    rw [there] at missing
    cases missing
  before _ := ⟨begins.slot, List.prefix_rfl⟩
  set exit there := by
    have missing := begins.exit
    rw [there] at missing
    cases missing
  funnel there := by
    have missing := begins.exit
    rw [there] at missing
    cases missing

/-- A function that has begun keeps its course with all of its clients, wherever they position its
generators. -/
theorem Begins.visits {world : World} (begins : body.Begins world) {client : Client}
    (clients : client.Forall fun place _ => world.MayBuild body.reference place) {middle : World}
    (visits : client.Visits world middle) :
    ∃ site : ReturnSite, site.toFunctionBody = body ∧ site.Later world middle ∧
      site.Later middle (client.run.after world) := by
  refine ⟨⟨body, body.entry, world.row body.entry, world.MayBuild body.reference⟩, rfl, ?_⟩
  refine (begins.holds begins.entryInside.1).visits ?_ visits
  exact clients.imp fun place request owned => ⟨owned, fun _ => rfl⟩

end FunctionBody

/-! ## The branches of shared returns -/

namespace ReturnSite

variable {site : ReturnSite} {world final : World} {place : GeneratorId} {block : BlockRef}

/-- An instruction is the last one of the block where it is added, and all else stays. -/
theorem emit_ends {operation : Operation} {value : Operand}
    (here : (world.generator place).block = .operand (.block block))
    (inside : block.place < world.blockCount block.routine)
    (run : Generator.emit place operation world = .ok value final) :
    final.lastOperation? block = some operation ∧ SameFrame world final := by
  rw [Generator.emit_of_block here] at run
  obtain ⟨made, does, -, -, -, changes⟩ := Build.emit_ok run
  refine ⟨?_, changes.toSameFrame⟩
  rw [World.lastOperation?, changes.row, if_pos ⟨rfl, inside⟩, List.getLast?_concat,
    Option.map_some, does]

/-- Where a generator is and what its block is does not depend on shared returns being set up. -/
structure StaysAt (site : ReturnSite) (place : GeneratorId) (block : BlockRef) (exit : BlockRef)
    (world : World) : Prop where
  /-- The return block is known. -/
  exit : site.exit? world = some exit
  /-- The generator is positioned at the block. -/
  here : (world.generator place).block = .operand (.block block)
  /-- The block is there. -/
  inside : block.place < world.blockCount block.routine

/-- A generator stays where it is while only instructions are added. -/
theorem StaysAt.of_frame {exit : BlockRef} (stays : site.StaysAt place block exit world)
    (frame : SameFrame world final) : site.StaysAt place block exit final where
  exit := by
    rw [← stays.exit]
    exact congrArg Function.exit (frame.function site.reference)
  here := by rw [frame.generator, stays.here]
  inside := by rw [frame.blockCount]; exact stays.inside

/-- A generator stays where it is while a block is added. -/
theorem StaysAt.of_addsBlock {exit : BlockRef} {symbol : SymbolRef}
    (stays : site.StaysAt place block exit world) (adds : AddsBlock symbol world final) :
    site.StaysAt place block exit final where
  exit := by
    rw [← stays.exit, FunctionBody.exit?, FunctionBody.exit?, World.function_eq, World.function_eq,
      adds.function?]
  here := by
    rw [← stays.here, World.generator, World.generator, adds.generators]
  inside := by
    rw [adds.blockCount]
    split
    next same => exact Nat.lt_succ_of_lt (same ▸ stays.inside)
    next => exact stays.inside

/-- A generator stays where it is while the return block is set up. -/
theorem staysAt_setUpReturn {exit : BlockRef} (holds : site.Holds world)
    (here : (world.generator place).block = .operand (.block block))
    (inside : block.place < world.blockCount block.routine)
    (run : Function.setUpReturn site.reference world = .ok exit final) :
    site.StaysAt place block exit final ∧ site.Later world final := by
  obtain ⟨later, gives⟩ := holds.setUpReturn
  obtain ⟨known, generators, blocks⟩ := gives exit final run
  refine ⟨⟨known, ?_, Nat.lt_of_lt_of_le inside (blocks _)⟩, Build.after_of_ok run ▸ later⟩
  rw [World.generator, generators]
  exact here

/-- **A shared return** of a value ends its block with a branch to the return block. -/
theorem returnShared_ends {value given : Value} (holds : site.Holds world)
    (has : site.Has world place) (opened : world.IsOpenAt place block) (yields : site.result ≠ .void)
    (run : Generator.returnShared place value world = .ok given final) :
    ∃ exit, site.exit? final = some exit ∧
      final.lastOperation? block = some (.branch (Generator.blockValue exit)) := by
  obtain ⟨run, -⟩ := Generator.actUnlessFinished_ok opened.unfinished run
  obtain ⟨isVoid, _, tested, run⟩ := bind_eq_ok.mp run
  rw [FunctionBody.isVoid_run holds.stands holds.result (has.function holds),
    decide_eq_false yields] at tested
  cases tested
  rw [if_neg Bool.false_ne_true] at run
  obtain ⟨seen, _, looked, run⟩ := bind_eq_ok.mp run
  obtain ⟨rfl, rfl⟩ := get_eq_ok.mp looked
  rw [has.function holds] at run
  obtain ⟨exit, entered, setting, run⟩ := bind_eq_ok.mp run
  obtain ⟨_, stored, storing, run⟩ := bind_eq_ok.mp run
  obtain ⟨_, branched, branching, run⟩ := bind_eq_ok.mp run
  obtain rfl := modify_eq_ok.mp run
  have emits : Emits place entered stored := (Generator.leads_storeResult _ value).of_ok storing
  have stays := (staysAt_setUpReturn holds opened.here opened.inside setting).1.of_frame
    emits.toSameFrame
  obtain ⟨last, frame⟩ := emit_ends stays.here stays.inside branching
  exact ⟨exit, (stays.of_frame frame).exit, last⟩

/-- **A conditional return** ends its block with a branch to the return block or elsewhere. -/
theorem returnIf_ends {condition value continuation given : Value} (holds : site.Holds world)
    (has : site.Has world place) (opened : world.IsOpenAt place block)
    (run : Generator.returnIf place condition value continuation world = .ok given final) :
    ∃ exit tested target, site.exit? final = some exit ∧
      final.lastOperation? block =
        some (.branchIf tested (Generator.blockValue exit) target) := by
  obtain ⟨run, -⟩ := Generator.actUnlessFinished_ok opened.unfinished run
  obtain ⟨seen, _, looked, run⟩ := bind_eq_ok.mp run
  obtain ⟨rfl, rfl⟩ := get_eq_ok.mp looked
  rw [has.function holds] at run
  obtain ⟨exit, entered, setting, run⟩ := bind_eq_ok.mp run
  obtain ⟨tested, coerced, coercing, run⟩ := bind_eq_ok.mp run
  obtain ⟨_, stored, storing, run⟩ := bind_eq_ok.mp run
  obtain ⟨stays, later⟩ := staysAt_setUpReturn holds opened.here opened.inside setting
  have same : SameCode entered coerced :=
    (Generator.leads_coerce place condition _).of_ok coercing
  have later := IsCourse.trans later (later.holds.later_of_sameCode same)
  have emits : Emits place coerced stored := (Generator.leads_storeResult _ value).of_ok storing
  have later := later.holds.later_of_emits (has.later later).inside emits
  have stays := (stays.of_frame same.toSameFrame).of_frame emits.toSameFrame
  -- What is left to do once it is known where control goes else.
  have ends {target : Value} {moved : World} {update : Generator → Generator} {operand : Operand}
      (stays : site.StaysAt place block exit moved) {branched : World}
      (branching : Generator.emit place
        (.branchIf tested (Generator.blockValue exit) target) moved = .ok operand branched)
      (run : branched.changeGenerator place update = final) :
      ∃ exit tested target, site.exit? final = some exit ∧
        final.lastOperation? block =
          some (.branchIf tested (Generator.blockValue exit) target) := by
    subst run
    obtain ⟨last, frame⟩ := emit_ends stays.here stays.inside branching
    exact ⟨exit, tested, target, (stays.of_frame frame).exit, last⟩
  dsimp only at run
  split at run
  · obtain ⟨target, given, giving, run⟩ := bind_eq_ok.mp run
    obtain ⟨rfl, rfl⟩ := pure_eq_ok.mp giving
    obtain ⟨_, branched, branching, run⟩ := bind_eq_ok.mp run
    exact ends stays branching (modify_eq_ok.mp run)
  · obtain ⟨target, added, adding, run⟩ := bind_eq_ok.mp run
    obtain ⟨_, branched, branching, run⟩ := bind_eq_ok.mp run
    obtain ⟨appended, run', adds⟩ := Function.appendNamed_run site.reference "block" stored
      (by rw [later.holds.stands]; exact later.holds.isSome_routine)
    have added_eq : appended = added := by
      simp only [Functor.map, EStateM.map, run'] at adding
      cases adding
      rfl
    exact ends (stays.of_addsBlock (added_eq ▸ adds)) branching (modify_eq_ok.mp run)

end ReturnSite

/-! ## The funnel -/

namespace FunctionBody

variable {body : FunctionBody}

/-- The funnel of a world in which the return block is the one that is meant. -/
theorem funnel_of_holds {site : ReturnSite} {world : World} (holds : site.Holds world)
    (meant : ∀ exit, site.exit? world = some exit → site.exit = exit) :
    site.Funnel site.outset world := by
  refine ⟨fun missing => (holds.before missing).1, fun exit known => ?_, fun exit known => ?_,
    fun exit known => (holds.set exit known).2.2.2, fun exit known => ?_⟩
  · obtain ⟨routine, -, other, -⟩ := holds.set exit known
    exact ⟨routine, other⟩
  · obtain rfl := meant exit known
    exact (holds.funnel known).1
  · obtain rfl := meant exit known
    exact (holds.funnel known).2

/-- **Shared returns have one funnel.** Take any client of a function that has begun, which asks its
generators for anything but to be positioned at the return block. In each world that the client
visits there is nothing of shared returns but a funnel, and its block and slot are those that there
are in the end. A return through the funnel, conditional or not, leads to that block. -/
theorem funnel_of_client {world final : World} (begins : body.Begins world) {client : Client}
    (ends : client.run.after world = final)
    (avoids : client.Forall (body.AvoidsExit world final)) :
    (∀ middle, client.Visits world middle →
      body.Funnel (world.row body.entry) middle ∧
        (∀ exit, body.exit? middle = some exit → body.exit? final = some exit) ∧
          ∀ slot, body.slot? middle = some slot → body.slot? final = some slot) ∧
      ∀ before after place block given, client.Visits world before → client.Visits world after →
        world.MayBuild body.reference place → before.IsOpenAt place block →
          (∀ value, body.result ≠ .void →
            Generator.returnShared place value before = .ok given after →
              ∃ exit, body.exit? final = some exit ∧
                after.lastOperation? block = some (.branch (Generator.blockValue exit))) ∧
            ∀ condition value continuation,
              Generator.returnIf place condition value continuation before = .ok given after →
                ∃ exit tested target, body.exit? final = some exit ∧
                  after.lastOperation? block =
                    some (.branchIf tested (Generator.blockValue exit) target) := by
  -- Wherever the shared returns lead to in the end is what they are meant to lead to.
  obtain ⟨site, rfl, owns, outset, begun, allowed, meant⟩ : ∃ site : ReturnSite,
      site.toFunctionBody = body ∧ site.Owns = world.MayBuild body.reference ∧
        site.outset = world.row body.entry ∧ site.Holds world ∧ client.Forall site.Allowed ∧
          ∀ exit, site.exit? final = some exit → site.exit = exit := by
    rcases known : body.exit? final with _ | exit
    · refine ⟨⟨body, body.entry, world.row body.entry, world.MayBuild body.reference⟩, rfl, rfl, rfl,
        begins.holds begins.entryInside.1, ?_, fun exit there => ?_⟩
      · exact avoids.imp fun place request avoid => ⟨avoid.1, fun _ => rfl⟩
      · exact absurd (known.symm.trans there) nofun
    · have routine : exit.routine = body.symbol := by
        obtain ⟨site, rfl, later, -⟩ :=
          begins.visits (avoids.imp fun _ _ avoid => avoid.1) (client.visits_after world)
        exact ((ends ▸ later.holds).set exit known).1
      refine ⟨⟨body, exit, world.row body.entry, world.MayBuild body.reference⟩, rfl, rfl, rfl,
        begins.holds routine, ?_, fun other there => ?_⟩
      · exact avoids.imp fun place request avoid =>
          ⟨avoid.1, fun same => absurd same (avoid.2 exit known)⟩
      · exact Option.some.inj (known.symm.trans there)
  have course {middle : World} (visits : client.Visits world middle) :
      site.Later world middle ∧ site.Later middle final := ends ▸ begun.visits allowed visits
  constructor
  · intro middle visits
    obtain ⟨upTo, further⟩ := course visits
    refine ⟨outset ▸ funnel_of_holds upTo.holds fun exit known => ?_, further.exit, further.slot⟩
    exact meant exit (further.exit exit known)
  · intro before after place block given visits visitsNext owned opened
    obtain ⟨upTo, -⟩ := course visits
    obtain ⟨-, further⟩ := course visitsNext
    have has : site.Has before place := ⟨owns ▸ owned, opened.isThere⟩
    constructor
    · intro value yields run
      obtain ⟨exit, known, last⟩ := ReturnSite.returnShared_ends upTo.holds has opened yields run
      exact ⟨exit, further.exit exit known, last⟩
    · intro condition value continuation run
      obtain ⟨exit, tested, target, known, last⟩ :=
        ReturnSite.returnIf_ends upTo.holds has opened run
      exact ⟨exit, tested, target, further.exit exit known, last⟩

/-- A world with a function that yields a number, and a generator at its entry. -/
def oneFunction : World :=
  (do
    let function ← Library.define 0 (.text "answer") (.tuple []) (.type (.int 32)) none
    Generator.atEntry function : Build GeneratorId).after .oneLibrary

/-- The only function of `oneFunction`. -/
def onlyBody : FunctionBody :=
  ⟨⟨0, 0⟩, ⟨0, 0⟩, ⟨⟨0, 0⟩, 0⟩, .int 32⟩

/-- The only function has begun. -/
theorem begins_onlyBody : onlyBody.Begins oneFunction where
  isThere := rfl
  stands := rfl
  entry := rfl
  result := rfl
  entryInside := ⟨rfl, by decide⟩
  ordered := by decide
  positioned place block inside here := by
    obtain rfl : place = 0 := Nat.lt_one_iff.mp inside
    cases here
    decide
  exit := rfl
  slot := rfl

/-- A client that makes two shared returns, the second one after reading the return block. -/
def twoReturns : Client :=
  .perform 0 (.operation "cret" [.truth true, .integer 1] []) (fun _ _ => .done (.ok .none)) fun _ =>
    .perform 0 (.inspect "return_block") (fun _ _ => .done (.ok .none)) fun _ =>
      .perform 0 (.operation "ret" [.integer 2] []) (fun _ _ => .done (.ok .none)) .done

/-- The only function begins, and after two shared returns there is one funnel. -/
theorem funnel_of_twoReturns :
    onlyBody.Begins oneFunction ∧
      twoReturns.Forall (onlyBody.AvoidsExit oneFunction (twoReturns.run.after oneFunction)) ∧
        onlyBody.exit? (twoReturns.run.after oneFunction) = some ⟨⟨0, 0⟩, 1⟩ ∧
          onlyBody.Funnel [] (twoReturns.run.after oneFunction) := by
  have avoids : twoReturns.Forall
      (onlyBody.AvoidsExit oneFunction (twoReturns.run.after oneFunction)) := by
    have own : oneFunction.MayBuild onlyBody.reference 0 := fun _ => rfl
    refine ⟨.of_target own rfl, fun _ _ => trivial, fun _ => ?_⟩
    refine ⟨.of_target own rfl, fun _ _ => trivial, fun _ => ?_⟩
    exact ⟨.of_target own rfl, fun _ _ => trivial, fun _ => trivial⟩
  obtain ⟨visited, -⟩ := funnel_of_client begins_onlyBody rfl avoids
  obtain ⟨funnel, -⟩ := visited _ (twoReturns.visits_after oneFunction)
  have there : onlyBody.exit? (twoReturns.run.after oneFunction) = some ⟨⟨0, 0⟩, 1⟩ := by
    decide +kernel
  exact ⟨begins_onlyBody, avoids, there, funnel⟩

end FunctionBody

end StructuredIR
