import StructuredIR.Proofs.Finished
import StructuredIR.Proofs.Wiring.Constructions

/-! # What operations of one generator leave alone

Each operation of a generator that calls nothing adds to the block at which the generator is and to no
other one that was there: **`Construction.Hosts.emits`** says so of straight-line operations, and one
lemma each of branches, returns and attributes. Where a generator is finished, nothing happens at all. -/

namespace StructuredIR

open Build (Leads bind_eq_ok get_eq_ok map_eq_ok modify_eq_ok pure_eq_ok lift_eq_ok)
open Generator (blockValue)

namespace Construction

variable {site : Construction} {before middle after : World} {place part : GeneratorId}
  {mine : GeneratorId → Prop} {grows : BlockRef → Prop}

/-! ## Adding instructions -/

/-- Straight-line operations add where the generator is. -/
theorem Hosts.emits {Result : Type} {step : Build Result} {value : Result}
    (hosts : site.Hosts before place) (leads : Leads (Emits place) step)
    (run : step before = .ok value after) : site.Proceeds place before after :=
  have emits := leads.of_ok run
  hosts.proceeds (hosts.toHolds.emits emits) (fun block _ => emits.endings_eq block)
    (emits.order _ ▸ List.Subset.refl _)

/-- What changes no code changes nothing that was there. -/
theorem Hosts.sameCode {Result : Type} {step : Build Result} {value : Result}
    (hosts : site.Hosts before place) (leads : Leads SameCode step)
    (run : step before = .ok value after) : site.Proceeds place before after :=
  have same := leads.of_ok run
  hosts.proceeds_idly (hosts.toHolds.sameCode same) (same.order _ ▸ List.Subset.refl _)

/-- A generator adds an instruction to the block at which it is. -/
theorem Hosts.emit_ok (hosts : site.Hosts before place) {operation : Operation} {value : Operand}
    (run : Generator.emit place operation before = .ok value after) :
    ∃ block made, (before.generator place).block = blockValue block ∧ before.Has block ∧
      made.operation = operation ∧ ChangesRow block (· ++ [made]) before after ∧
        (operation.isTerminator = true → before.isTerminated block = false) := by
  obtain ⟨block, _, positioned, run⟩ := bind_eq_ok.mp run
  cases here : (before.generator place).block.block? with
  | none =>
      obtain ⟨seen, _, looked, positioned⟩ := bind_eq_ok.mp positioned
      obtain ⟨rfl, rfl⟩ := get_eq_ok.mp looked
      rw [here] at positioned
      cases positioned
  | some known =>
      have here := Value.eq_of_block?_eq_some here
      rw [Generator.position_of_block here] at positioned
      cases positioned
      obtain ⟨made, does, -, -, free, changes⟩ := Build.emit_ok run
      exact ⟨_, made, here, hosts.standing _ here, does, changes, free⟩

/-- An instruction is added where the generator is. -/
theorem Hosts.emit (hosts : site.Hosts before place) {operation : Operation} {value : Operand}
    (run : Generator.emit place operation before = .ok value after) :
    site.Advances place before after ∧ after.order site.symbol = before.order site.symbol := by
  obtain ⟨block, made, here, -, -, changes, -⟩ := hosts.emit_ok run
  exact ⟨hosts.advances ((hosts.toHolds.changesRow changes).weaken (fun _ _ => id)
    fun other _ same => same ▸ here), changes.order _⟩

/-- A finished generator does nothing. -/
theorem Hosts.idle {action : Build Value} {value : Value} (hosts : site.Hosts before place)
    (isFinished : (before.generator place).isFinished = true)
    (run : Generator.unlessFinished place action before = .ok value after) :
    site.Proceeds place before after := by
  rw [Generator.unlessFinished_of_isFinished isFinished] at run
  cases run
  exact hosts.proceeds_refl

/-- What is done and gives nothing, unless a generator is finished, does what it does. -/
theorem Hosts.actUnlessFinished {action : Build Unit} {value : Value}
    (hosts : site.Hosts before place)
    (run : Generator.actUnlessFinished place action before = .ok value after)
    (proceeds : action before = .ok () after → site.Proceeds place before after) :
    site.Proceeds place before after := by
  cases isFinished : (before.generator place).isFinished with
  | true => exact hosts.idle isFinished run
  | false => exact proceeds (Generator.actUnlessFinished_ok isFinished run).1

/-- What is done unless a generator is finished does what it does. -/
theorem Hosts.unlessFinished {action : Build Value} {value : Value} (hosts : site.Hosts before place)
    (run : Generator.unlessFinished place action before = .ok value after)
    (proceeds : action before = .ok value after → site.Proceeds place before after) :
    site.Proceeds place before after := by
  cases isFinished : (before.generator place).isFinished with
  | true => exact hosts.idle isFinished run
  | false => exact proceeds (Generator.unlessFinished_ok isFinished run)

/-! ## Branches -/

/-- An instruction that a generator adds before it is finished. -/
theorem Hosts.emitAndFinish (hosts : site.Hosts before place) {operation : Operation}
    (run : (do
      let _ ← Generator.emit place operation
      Generator.finish place : Build Unit) before = .ok () after) :
    site.Proceeds place before after := by
  obtain ⟨_, emitted, emitting, run⟩ := bind_eq_ok.mp run
  obtain rfl := modify_eq_ok.mp run
  obtain ⟨emits, order⟩ := hosts.emit emitting
  have later := emits.hosts hosts
  refine (emits.trans later.finish).proceeds_of_isFinished ?_ (order ▸ List.Subset.refl _)
  rw [World.generator_changeGenerator, if_pos ⟨rfl, later.inside⟩]

/-- A branch ends the block at which the generator is. -/
theorem Hosts.branchTo {target : Value} (hosts : site.Hosts before place)
    (run : Generator.branchTo place target before = .ok () after) :
    site.Proceeds place before after := by
  obtain ⟨seen, _, looked, run⟩ := bind_eq_ok.mp run
  obtain ⟨rfl, rfl⟩ := get_eq_ok.mp looked
  exact hosts.emitAndFinish run

/-- A generator that leaves a loop branches to where the loop ends. -/
theorem branchTo_of_leaveLoop (unfinished : (before.generator place).isFinished = false)
    {value : Value} (run : Generator.leaveLoop place before = .ok value after) :
    Generator.branchTo place (before.generator place).loopExit before = .ok () after := by
  obtain ⟨leaving, -⟩ := Generator.actUnlessFinished_ok unfinished run
  obtain ⟨seen, _, looked, leaving⟩ := bind_eq_ok.mp leaving
  obtain ⟨rfl, rfl⟩ := get_eq_ok.mp looked
  cases given : (before.generator place).loopExit with
  | none =>
      rw [given] at leaving
      cases leaving
  | _ =>
      rw [given] at leaving
      exact leaving

/-- A generator that goes on to the next turn branches to where turns go on. -/
theorem branchTo_of_nextTurn (unfinished : (before.generator place).isFinished = false)
    {value : Value} (run : Generator.nextTurn place before = .ok value after) :
    Generator.branchTo place (before.generator place).loopBlock before = .ok () after := by
  obtain ⟨going, -⟩ := Generator.actUnlessFinished_ok unfinished run
  obtain ⟨seen, _, looked, going⟩ := bind_eq_ok.mp going
  obtain ⟨rfl, rfl⟩ := get_eq_ok.mp looked
  cases given : (before.generator place).loopBlock with
  | none =>
      rw [given] at going
      cases going
  | _ =>
      rw [given] at going
      exact going

/-- Leaving a loop is a branch. -/
theorem Hosts.leaveLoop {value : Value} (hosts : site.Hosts before place)
    (run : Generator.leaveLoop place before = .ok value after) :
    site.Proceeds place before after := by
  cases isFinished : (before.generator place).isFinished with
  | true => exact hosts.idle isFinished run
  | false => exact hosts.branchTo (branchTo_of_leaveLoop isFinished run)

/-- Going on to the next turn of a loop is a branch. -/
theorem Hosts.nextTurn {value : Value} (hosts : site.Hosts before place)
    (run : Generator.nextTurn place before = .ok value after) :
    site.Proceeds place before after := by
  cases isFinished : (before.generator place).isFinished with
  | true => exact hosts.idle isFinished run
  | false => exact hosts.branchTo (branchTo_of_nextTurn isFinished run)

/-! ## Returns -/

/-- A generator is put at a block that has come up and has not ended. -/
theorem Advances.moveTo (advances : site.Advances place before middle)
    (hosts : site.Hosts before place) (order : before.order site.symbol ⊆ middle.order site.symbol)
    {block : BlockRef} (new : site.IsNew before block) (known : middle.Has block)
    (free : middle.endings block = []) :
    site.Proceeds place before
      (middle.changeGenerator place fun generator => { generator with block := blockValue block }) := by
  have inside := (advances.hosts hosts).inside
  have same := middle.generator_changeGenerator place place fun generator =>
    { generator with block := blockValue block }
  rw [if_pos ⟨rfl, inside⟩] at same
  obtain ⟨_, isFinished, record⟩ := advances.record
  have moving := advances.progress.holds.changeGenerator place fun generator =>
    { generator with block := blockValue block }
  have moves : site.Advances place before _ :=
    ⟨advances.progress.trans moving (fun _ _ => id) fun _ _ => False.elim,
      ⟨blockValue block, isFinished, by rw [same, record]⟩,
      .inr ⟨block, by rw [same]; rfl, new, moving.has known⟩⟩
  refine moves.proceeds_of_block (by rw [same]; rfl) ?_ order
  exact (moving.endings_eq known id).trans free

/-- The return block is set up aside. -/
theorem Hosts.setUpReturn (hosts : site.Hosts before place) {exit : BlockRef}
    (run : Function.setUpReturn site.reference before = .ok exit after) :
    site.Proceeds place before after :=
  have ⟨progress, _, order⟩ := hosts.toHolds.setUpReturn run
  hosts.proceeds_idly progress order

/-- A conditional return leaves its generator where it was or puts it at a new block. -/
theorem Hosts.returnIf {condition given continuation value : Value} (hosts : site.Hosts before place)
    (run : Generator.returnIf place condition given continuation before = .ok value after) :
    site.Proceeds place before after := by
  refine hosts.actUnlessFinished run fun run => ?_
  obtain ⟨seen, _, looked, run⟩ := bind_eq_ok.mp run
  obtain ⟨rfl, rfl⟩ := get_eq_ok.mp looked
  rw [hosts.function] at run
  obtain ⟨exit, entered, setting, run⟩ := bind_eq_ok.mp run
  obtain ⟨tested, coerced, coercing, run⟩ := bind_eq_ok.mp run
  obtain ⟨_, stored, storing, run⟩ := bind_eq_ok.mp run
  -- The slot and the return block are set up aside, and then only the block of the generator grows.
  have sets := hosts.setUpReturn setting
  have coerces := sets.trans
    ((sets.hosts hosts).sameCode (Generator.leads_coerce place condition _) coercing)
  have stores := coerces.trans
    ((coerces.hosts hosts).emits (Generator.leads_storeResult place given) storing)
  have hosting := stores.hosts hosts
  dsimp only at run
  split at run
  · obtain ⟨target, _, giving, run⟩ := bind_eq_ok.mp run
    obtain ⟨rfl, rfl⟩ := pure_eq_ok.mp giving
    exact stores.trans (hosting.emitAndFinish run)
  · obtain ⟨target, added, adding, run⟩ := bind_eq_ok.mp run
    obtain ⟨block, appending, rfl⟩ := map_eq_ok.mp adding
    obtain ⟨_, branched, branching, run⟩ := bind_eq_ok.mp run
    obtain rfl := modify_eq_ok.mp run
    obtain ⟨rfl, adds⟩ := hosting.appendNamed_ok appending
    obtain ⟨adding, known⟩ := hosting.addsBlock adds
    have order : stored.order site.symbol ⊆ added.order site.symbol := by
      rw [adds.order, if_pos rfl]
      exact List.subset_append_left _ _
    have added := hosting.proceeds_idly adding order
    have new : site.IsNew stored _ := isNew_next stored
    obtain ⟨branches, same⟩ := (added.hosts hosting).emit branching
    refine stores.trans ((added.toAdvances.trans branches).moveTo hosting (same ▸ order) new
      (branches.progress.has known) ?_)
    -- The branch is somewhere else, for the generator is at a block that was there before.
    rw [branches.progress.endings_eq known fun here => new.not_has ?_, World.endings, adds.row,
      ← World.endings, World.endings_of_not_has new.not_has]
    rw [adding.generator place hosting.inside id] at here
    exact hosting.standing _ here

/-- A shared return ends the block at which the generator is. -/
theorem Hosts.returnShared {given value : Value} (hosts : site.Hosts before place)
    (run : Generator.returnShared place given before = .ok value after) :
    site.Proceeds place before after := by
  refine hosts.actUnlessFinished run fun run => ?_
  obtain ⟨isVoid, _, tested, run⟩ := bind_eq_ok.mp run
  cases tested
  split at run
  · exact hosts.emitAndFinish run
  · obtain ⟨seen, _, looked, run⟩ := bind_eq_ok.mp run
    obtain ⟨rfl, rfl⟩ := get_eq_ok.mp looked
    rw [hosts.function] at run
    obtain ⟨exit, entered, setting, run⟩ := bind_eq_ok.mp run
    obtain ⟨_, stored, storing, run⟩ := bind_eq_ok.mp run
    have sets := hosts.setUpReturn setting
    have stores := sets.trans
      ((sets.hosts hosts).emits (Generator.leads_storeResult place given) storing)
    exact stores.trans ((stores.hosts hosts).emitAndFinish run)

/-- A direct return ends the block at which the generator is. -/
theorem Hosts.returnDirectly {given value : Value} (hosts : site.Hosts before place)
    (run : Generator.returnDirectly place given before = .ok value after) :
    site.Proceeds place before after := by
  refine hosts.actUnlessFinished run fun run => ?_
  obtain ⟨isVoid, _, tested, run⟩ := bind_eq_ok.mp run
  cases tested
  split at run
  · exact hosts.emitAndFinish run
  · split at run
    · cases run
    obtain ⟨seen, _, looked, run⟩ := bind_eq_ok.mp run
    obtain ⟨rfl, rfl⟩ := get_eq_ok.mp looked
    obtain ⟨block, _, positioned, run⟩ := bind_eq_ok.mp run
    obtain ⟨here, rfl⟩ := Generator.position_ok positioned
    obtain ⟨operand, coerced, coercing, run⟩ := bind_eq_ok.mp run
    have same := (Generator.leads_coerce place given _ : Leads SameCode _).of_ok coercing
    have coerces := hosts.sameCode (Generator.leads_coerce place given _) coercing
    obtain ⟨_, returned, returning, run⟩ := bind_eq_ok.mp run
    have stands : (coerced.generator place).block = blockValue block :=
      same.toSameFrame.generator place ▸ here
    rw [← Generator.emit_of_block stands] at returning
    exact coerces.trans ((coerces.hosts hosts).emitAndFinish (bind_eq_ok.mpr ⟨_, _, returning, run⟩))

/-- A value to return that is stored in advance is stored where the generator is. -/
theorem Hosts.presetReturn {given value : Value} (hosts : site.Hosts before place)
    (run : Generator.presetReturn place given before = .ok value after) :
    site.Proceeds place before after := by
  refine hosts.actUnlessFinished run fun run => ?_
  obtain ⟨isVoid, _, tested, run⟩ := bind_eq_ok.mp run
  cases tested
  split at run
  · cases run
    exact hosts.proceeds_refl
  · split at run
    · cases run
    obtain ⟨seen, _, looked, run⟩ := bind_eq_ok.mp run
    obtain ⟨rfl, rfl⟩ := get_eq_ok.mp looked
    rw [hosts.function] at run
    obtain ⟨exit, entered, setting, storing⟩ := bind_eq_ok.mp run
    have sets := hosts.setUpReturn setting
    exact sets.trans ((sets.hosts hosts).emits (Generator.leads_storeResult place given) storing)

/-! ## Attributes -/

/-- Looking at an attribute may set up the return block, and changes nothing else. -/
theorem Hosts.attributeOf {name : String} {value : Value} (hosts : site.Hosts before place)
    (run : Script.attributeOf (.generator place) name before = .ok value after) :
    site.Proceeds place before after := by
  by_cases other : name = "return_block"
  · subst other
    obtain ⟨seen, _, looked, run⟩ := bind_eq_ok.mp run
    obtain ⟨rfl, rfl⟩ := get_eq_ok.mp looked
    have run : (do
        return blockValue (← Function.setUpReturn (before.generator place).function) : Build Value)
        before = .ok value after := run
    rw [hosts.function] at run
    obtain ⟨exit, entered, setting, run⟩ := bind_eq_ok.mp run
    obtain ⟨rfl, rfl⟩ := pure_eq_ok.mp run
    exact hosts.setUpReturn setting
  · exact hosts.sameCode (Script.sameCode_attributeOf other) run

end Construction

end StructuredIR
