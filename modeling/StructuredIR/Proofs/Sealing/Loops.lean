import StructuredIR.Proofs.Sealing.Conditionals
import StructuredIR.Proofs.Wiring.Loops

/-! # Loops that keep order

While a loop is built, its generator stays where it was, at a block that may have ended or at which the
first part begins. So it is not free meanwhile: the callbacks may ask all other free generators.

* **`BuildsLoop`** is what holds while a loop is built: there is order without its generator, none but
  that of the part that is being built is at work where it is, and the blocks at which parts are still to
  begin are vacant.
* **`BuildsLoop.comesTo_part`**: a part is built at the first of these blocks, which leaves the others
  vacant.
* **`Generator.comesTo_loop`**: loops keep order. -/

namespace StructuredIR

open Build (Leads ComesTo bind_eq_ok bind_eq_error get_eq_ok modify_eq_ok pure_eq_ok)
open Generator (blockValue allBut)

/-- **A loop is being built** since some world on a generator, which is not free meanwhile. The blocks at
which parts are still to begin or the loop is to end are vacant. -/
structure BuildsLoop (free : GeneratorId → Bool) (place : GeneratorId) (part? : Option GeneratorId)
    (start world : World) (pending : List BlockRef) : Prop where
  /-- The generators were in order. -/
  begun : start.IsOrderly free
  /-- The generator was free. -/
  isFree : free place = true
  /-- It was there. -/
  inside : place < start.generators.length
  /-- It was not finished. -/
  unfinished : (start.generator place).isFinished = false
  /-- There is order without the generator. -/
  since : OrderSince (allBut free place) (fun block => start.Has block ∧ ¬ start.IsAt place block)
    (fun other => allBut free place other = false) start world
  /-- None but the generator of the part that is being built is at work where it is. -/
  deserted (block : BlockRef) (other : GeneratorId) : start.IsAt place block →
    world.WorksAt (allBut free place) other block → part? = some other
  /-- The blocks are vacant. -/
  vacant (block : BlockRef) : block ∈ pending →
    IsVacant (allBut free place) (fun block => start.Has block ∧ ¬ start.IsAt place block) start world
      block

namespace BuildsLoop

variable {free : GeneratorId → Bool} {place part : GeneratorId} {part? : Option GeneratorId}
  {start world after : World} {pending others : List BlockRef} {block : BlockRef}
  {reference : FunctionRef}

/-- A loop begins. -/
theorem refl (begun : start.IsOrderly free) (isFree : free place = true)
    (inside : place < start.generators.length)
    (unfinished : (start.generator place).isFinished = false) :
    BuildsLoop free place none start start [] where
  begun := begun
  isFree := isFree
  inside := inside
  unfinished := unfinished
  since := .refl (begun.fewer inside) fun _ => And.left
  deserted block other isAt works :=
    have both := World.worksAt_allBut.mp works
    absurd (begun.apart other place block both.1 ⟨isFree, inside, unfinished, isAt⟩) both.2
  vacant _ member := absurd member List.not_mem_nil

/-- Where the generator is is there. -/
theorem has (builds : BuildsLoop free place part? start world pending)
    (isAt : start.IsAt place block) : world.Has block :=
  builds.since.has (builds.begun.standing place block builds.isFree builds.inside isAt)

/-- The generator is what it was. -/
theorem generator (builds : BuildsLoop free place part? start world pending) :
    world.generator place = start.generator place :=
  builds.since.aside place (by simp [allBut]) builds.inside

/-- The routine of its function is there. -/
theorem stands (builds : BuildsLoop free place part? start world pending) :
    world.Hosts (start.generator place).function :=
  builds.since.routines _ (builds.begun.stands place builds.isFree builds.inside)

/-- Fewer blocks are vacant as well. -/
theorem subset (builds : BuildsLoop free place part? start world pending)
    (fewer : others ⊆ pending) : BuildsLoop free place part? start world others :=
  { builds with vacant := fun block member => builds.vacant block (fewer member) }

/-- Order is kept while a loop is built. -/
theorem later (builds : BuildsLoop free place part? start world pending)
    (keeps : KeepsOrder (allBut free place) world after) :
    BuildsLoop free place part? start after pending :=
  { builds with
    since := builds.since.trans keeps fun _ => id
    deserted := fun block other isAt works =>
      builds.deserted block other isAt (keeps.comes other block works (builds.has isAt))
    vacant := fun block member => (builds.vacant block member).later builds.since.generators keeps }

/-- Steps that end no block are taken while a loop is built. -/
theorem still (builds : BuildsLoop free place part? start world pending)
    (ends : EndsNothing world after) : BuildsLoop free place part? start after pending :=
  builds.later (ends.keepsOrder builds.since.orderly)

/-! ## Laying blocks -/

/-- **A new block** is vacant. -/
theorem comesTo_newBlock (builds : BuildsLoop free place part? start world pending)
    (there : world.Hosts reference) (name : String) (fails : World → Prop) :
    ComesTo (Function.appendNamed reference name) world
      (fun block after => BuildsLoop free place part? start after (block :: pending) ∧
        block ∉ pending ∧ ¬ start.Has block) fails :=
  (builds.since.comesTo_newBlock reference name there fails).imp (fun block after both => by
    have still := builds.still both.1
    refine ⟨{ still with vacant := fun other member => ?_ }, fun member => ?_, fun known => ?_⟩
    · rcases List.mem_cons.mp member with rfl | member
      · exact both.2.1
      · exact still.vacant other member
    · exact both.2.2 (builds.vacant block member).has
    · exact both.2.2 (builds.since.has known)) fun _ => id

/-- The block at which the generator is may be ended. -/
theorem append (builds : BuildsLoop free place none start world pending)
    (isAt : start.IsAt place block) {made : Instruction}
    (changes : ChangesRow block (· ++ [made]) world after)
    (opened : world.isTerminated block = false) (apart : block ∉ pending) :
    BuildsLoop free place none start after pending :=
  { builds with
    since := builds.since.append changes opened (fun watch => watch.2 isAt) fun other works => by
      cases builds.deserted block other isAt works
    deserted := fun block other isAt works =>
      builds.deserted block other isAt ((World.worksAt_congr changes.generators).mp works)
    vacant := fun other member => (builds.vacant other member).append changes fun same =>
      apart (same ▸ member) }

/-- The block at which the generator is is vacant for a part, if it has not ended. -/
theorem vacant_here (builds : BuildsLoop free place none start world pending)
    (isAt : start.IsAt place block) (opened : world.isTerminated block = false) :
    BuildsLoop free place none start world [block] := by
  refine { builds with vacant := fun other member => ?_ }
  obtain rfl := List.mem_singleton.mp member
  have known := builds.begun.standing place other builds.isFree builds.inside isAt
  refine ⟨builds.has isAt, opened, fun watch => watch.2 isAt, fun visitor works => ?_,
    fun visitor isFree early unfinished there => ?_⟩
  · cases builds.deserted other visitor isAt works
  · -- A generator that had gone there would have been at work there from the outset.
    have stood := builds.since.stays visitor other isFree early there known
    have both := Generator.allBut_iff.mp isFree
    exact both.2 (builds.begun.apart visitor place other ⟨both.1, early, unfinished, stood⟩
      ⟨builds.isFree, builds.inside, builds.unfinished, isAt⟩)

/-- **The turns of a loop begin** at a block that is vacant for its parts. -/
theorem comesTo_loopHeader (builds : BuildsLoop free place none start world []) :
    ComesTo (Generator.loopHeader place (start.generator place).function) world
      (fun header after => BuildsLoop free place none start after [header]) World.IsSealed := by
  refine Generator.comesTo_there builds.since.orderly.isSealed fun current isAt => ?_
  rw [World.IsAt, builds.generator] at isAt
  refine .get (.get ?_)
  split
  next reused =>
    -- A block without instructions has not ended.
    refine .pure (builds.vacant_here isAt ?_)
    have blank := List.isEmpty_iff.mp (Bool.and_eq_true_iff.mp reused).1
    rw [World.isTerminated_eq, World.row, blank]
    rfl
  · -- The branch to the header ends the block at which the generator stays.
    refine (builds.comesTo_newBlock builds.stands "loop" _).bind ?_
    rintro header added ⟨adds, -, isNew⟩
    have known := adds.begun.standing place current adds.isFree adds.inside isAt
    unfold Generator.emit
    rw [bind_assoc]
    refine Generator.comesTo_there adds.since.orderly.isSealed fun block there => ?_
    rw [World.IsAt, adds.generator] at there
    obtain rfl : block = current := by
      cases there.symm.trans isAt
      rfl
    refine ComesTo.through (fun _ after => BuildsLoop free place none start after [header])
      ⟨fun _ after run => ?_, fun _ after run => ?_⟩ fun _ after entered => .pure entered
    · obtain ⟨made, -, -, -, opened, changes⟩ := Build.emit_ok run
      refine adds.append isAt changes (opened rfl) fun member => isNew ?_
      exact List.mem_singleton.mp member ▸ known
    · exact (EndsNothing.of_sameCode (Build.emit_error run)).isSealed adds.since.orderly.isSealed

/-- **Blocks are laid** in addition to those that are vacant. -/
def Lays (free : GeneratorId → Bool) (place : GeneratorId) (start : World)
    (pending laid : List BlockRef) (world : World) : Prop :=
  BuildsLoop free place none start world (laid ++ pending) ∧ (laid ++ pending).Nodup ∧
    ∀ block ∈ laid, ¬ start.Has block

section

variable (builds : BuildsLoop free place none start world pending) (distinct : pending.Nodup)
include builds distinct

/-- Nothing is laid. -/
theorem lays_nil : Lays free place start pending [] world :=
  ⟨builds, distinct, fun _ member => absurd member List.not_mem_nil⟩

/-- A block is laid. -/
theorem comesTo_lays (name : String) (fails : World → Prop) :
    ComesTo (Function.appendNamed (start.generator place).function name) world
      (fun block after => Lays free place start pending [block] after) fails :=
  (builds.comesTo_newBlock builds.stands name fails).imp
    (fun _ _ adds => ⟨adds.1, List.nodup_cons.mpr ⟨adds.2.1, distinct⟩, fun _ member =>
      List.mem_singleton.mp member ▸ adds.2.2⟩) fun _ => id

/-- **The body begins** at the header or at a block that is laid for it. -/
theorem comesTo_bodyBlock (header : BlockRef) (parts : Generator.LoopParts) :
    ComesTo (Generator.bodyBlock (start.generator place).function header parts) world
      (fun body after => ∃ laid, PlacedAt header parts.body.isSome parts.compare.isSome body laid ∧
        Lays free place start pending laid after) World.IsSealed := by
  unfold Generator.bodyBlock
  cases parts.body with
  | none => exact .pure ⟨[], .absent rfl, builds.lays_nil distinct⟩
  | some body =>
  cases parts.compare with
  | none => exact .pure ⟨[], .header rfl rfl, builds.lays_nil distinct⟩
  | some compare =>
      exact (builds.comesTo_lays distinct "body" _).map fun block after lays =>
        ⟨[block], .anew block rfl rfl, lays⟩

/-- **The increment begins** at the header or at a block that is laid for it. -/
theorem comesTo_incrementBlock (header : BlockRef) (parts : Generator.LoopParts) :
    ComesTo (Generator.incrementBlock (start.generator place).function header parts) world
      (fun increment after => ∃ laid, PlacedAt header parts.increment.isSome
        (parts.body.isSome || parts.compare.isSome) increment laid ∧
          Lays free place start pending laid after) World.IsSealed := by
  unfold Generator.incrementBlock
  cases parts.increment with
  | none => exact .pure ⟨[], .absent rfl, builds.lays_nil distinct⟩
  | some increment =>
  have first : (parts.body.isNone && parts.compare.isNone) =
      !(parts.body.isSome || parts.compare.isSome) := by
    rw [Bool.not_or, Option.not_isSome, Option.not_isSome]
  cases later : parts.body.isSome || parts.compare.isSome with
  | false =>
      rw [later] at first
      simp only [first]
      exact .pure ⟨[], .header rfl rfl, builds.lays_nil distinct⟩
  | true =>
      rw [later] at first
      simp only [first]
      exact (builds.comesTo_lays distinct "increment" _).map fun block after lays =>
        ⟨[block], .anew block rfl rfl, lays⟩

/-- **The loop ends** at what is given or at a block that is laid for that. -/
theorem comesTo_loopEnd (given : Value) :
    ComesTo (Generator.loopEnd (start.generator place).function given) world
      (fun exit after => ∃ laid, EndsAt given exit laid ∧ Lays free place start pending laid after)
      World.IsSealed := by
  unfold Generator.loopEnd
  cases isGiven : given.isGiven with
  | true => exact .pure ⟨[], .given isGiven, builds.lays_nil distinct⟩
  | false =>
      exact (builds.comesTo_lays distinct "break" _).map fun block after lays =>
        ⟨[block], .anew block isGiven, lays⟩

end

/-- **The blocks of a loop are laid**: those at which its parts begin and that at which it ends are
distinct and vacant. -/
theorem comesTo_loopBlocks {header : BlockRef} (parts : Generator.LoopParts) (given : Value)
    (builds : BuildsLoop free place none start world [header]) :
    ComesTo (Generator.loopBlocks (start.generator place).function header parts given) world
      (fun blocks after => blocks.header = header ∧
        blocks.body.isSome = parts.body.isSome ∧
        blocks.increment.isSome = parts.increment.isSome ∧ ∃ exits,
          EndsAt given blocks.exit exits ∧ (∀ block ∈ exits, ¬ start.Has block) ∧
          let pending := blocks.body.toList ++ (if parts.compare.isSome then [header] else []) ++
            blocks.increment.toList ++ exits
          pending.Nodup ∧ BuildsLoop free place none start after pending) World.IsSealed := by
  refine (builds.comesTo_bodyBlock (List.nodup_singleton header) header parts).bind ?_
  rintro body? bodied ⟨forBody, bodyAt, builds, distinct, -⟩
  refine (builds.comesTo_incrementBlock distinct header parts).bind ?_
  rintro increment? incremented ⟨forIncrement, incrementAt, builds, distinct, -⟩
  refine (builds.comesTo_loopEnd distinct given).bind ?_
  rintro exit ended ⟨exits, endsAt, builds, distinct, anew⟩
  obtain ⟨-, starts, apart⟩ := List.nodup_append.mp distinct
  have order : (forIncrement ++ (forBody ++ [header])).Perm (header :: (forBody ++ forIncrement)) := by
    rw [← List.append_assoc]
    exact (List.perm_append_singleton header _).trans (List.perm_append_comm.cons header)
  -- Each part begins at the header or at what is laid for it.
  have subset : body?.toList ++ (if parts.compare.isSome then [header] else []) ++
      increment?.toList ⊆ forIncrement ++ (forBody ++ [header]) := by
    intro block member
    refine order.mem_iff.mpr ?_
    rcases List.mem_append.mp member with first | increment
    · rcases List.mem_append.mp first with body | compare
      · have begins := bodyAt.mem (Option.mem_toList.mp body)
        grind
      · split at compare
        · exact List.mem_singleton.mp compare ▸ List.mem_cons_self
        · cases compare
    · have begins := incrementAt.mem (Option.mem_toList.mp increment)
      grind
  refine .pure ⟨rfl, bodyAt.isSome_eq, incrementAt.isSome_eq, exits, endsAt, anew, ?_,
    builds.subset fun block member => ?_⟩
  · refine List.nodup_append.mpr ⟨bodyAt.nodup_starts incrementAt (order.nodup_iff.mp starts),
      (List.nodup_append.mp distinct).1, fun block member exit known same => ?_⟩
    exact apart exit known block (subset member) same.symm
  · rcases List.mem_append.mp member with member | member
    · exact List.mem_append_right _ (subset member)
    · exact List.mem_append_left _ member

/-! ## Parts -/

/-- A generator that is opened for a part is a new one there. -/
theorem loopPart_run (place : GeneratorId) (block : BlockRef) (blocks : Generator.LoopBlocks)
    (world : World) :
    Generator.loopPart place block blocks world = .ok world.generators.length
      (world.joined ⟨(world.generator place).function, blockValue block, blockValue block,
        blockValue blocks.continue, blocks.exit, false⟩) := by
  show EStateM.Result.ok world.generators.length
    { world with generators := List.modify _ world.generators.length _ } = _
  exact congrArg (fun generators => EStateM.Result.ok world.generators.length
    { world with generators := generators }) (List.modifyTailIdx_add _ 0 world.generators [_])

/-- **A part begins** with a new generator at a vacant block. -/
theorem joined (builds : BuildsLoop free place none start world (block :: pending))
    (apart : block ∉ pending) (record : Generator) (isAt : record.block = blockValue block)
    (function : record.function = (start.generator place).function) :
    BuildsLoop free place (some world.generators.length) start (world.joined record) pending where
  begun := builds.begun
  isFree := builds.isFree
  inside := builds.inside
  unfinished := builds.unfinished
  since := builds.since.join (builds.vacant block List.mem_cons_self) isAt
    (function ▸ builds.stands)
  deserted there other stood works := by
    rcases World.worksAt_joined works with ⟨rfl, -⟩ | works
    · rfl
    · cases builds.deserted there other stood works
  vacant other member := (builds.vacant other (List.mem_cons_of_mem block member)).joined isAt
    fun same => apart (same ▸ member)

/-- **A part is closed** once its generator is finished. -/
theorem finish (builds : BuildsLoop free place (some part) start world pending)
    (isFree : allBut free place part = true) (inside : part < world.generators.length) :
    BuildsLoop free place none start
      (world.changeGenerator part fun generator => { generator with isFinished := true }) pending := by
  have closes := builds.later (builds.since.orderly.finish isFree inside)
  refine { closes with deserted := fun block other isAt works => ?_ }
  cases closes.deserted block other isAt works
  exact absurd works (World.not_worksAt_finish inside)

/-- **A part is built at the first of the vacant blocks**, and the others stay vacant. -/
theorem comesTo_part (builds : BuildsLoop free place none start world (block :: pending))
    (apart : block ∉ pending) (blocks : Generator.LoopBlocks) {callback : Callback}
    (keeps : callback.KeepsOrder (allBut free place)) {load : GeneratorId → Build (List Value)}
    (loads : ∀ part, Leads (Emits part) (load part)) {onward : GeneratorId → Value → Build Unit}
    (leads : ∀ (part : GeneratorId) (result : Value) (world : World),
      world.IsOrderly (allBut free place) → allBut free place part = true →
        part < world.generators.length → ComesTo (onward part result) world
          (fun _ after => KeepsOrder (allBut free place) world after)
          (KeepsOrder (allBut free place) world)) :
    ComesTo (do
        let part ← Generator.loopPart place block blocks
        let values ← load part
        let result ← callback.run (.generator part :: values)
        onward part result
        Generator.finish part : Build Unit) world
      (fun _ after => BuildsLoop free place none start after pending) World.IsSealed := by
  -- The generator of the part is free, and the callback may ask it as well as all others but one.
  have isFree := builds.since.orderly.fresh _ (Nat.le_refl world.generators.length)
  have opens := builds.joined apart ⟨(world.generator place).function, blockValue block,
    blockValue block, blockValue blocks.continue, blocks.exit, false⟩ rfl
    (by rw [builds.generator])
  refine ComesTo.through (fun part after => after.generators.length = world.generators.length + 1 ∧
    part = world.generators.length ∧ (after.generator part).isFinished = false ∧
      BuildsLoop free place (some part) start after pending)
    ⟨fun part after run => ?_, fun _ _ run => ?_⟩ ?_
  · rw [loopPart_run] at run
    cases run
    refine ⟨List.length_append, rfl, ?_, opens⟩
    rw [World.generator_append, if_pos rfl]
  · rw [loopPart_run] at run
    cases run
  rintro part opened ⟨length, rfl, unfinished, opens⟩
  have inside : world.generators.length < opened.generators.length :=
    length ▸ Nat.lt_succ_self world.generators.length
  have loading {loaded : World} (emits : Emits world.generators.length opened loaded) :=
    emits.endsNothing opens.since.orderly isFree inside unfinished
  refine ((ComesTo.of_leads (loads _)).imp (fun _ _ => id) fun _ emits =>
    (loading emits).isSealed opens.since.orderly.isSealed).bind fun values loaded emits => ?_
  have ends := loading emits
  have opens := opens.still ends
  refine (keeps loaded _ opens.since.orderly).bind fun result built kept => ?_
  have opens := opens.later kept
  have present : world.generators.length < built.generators.length :=
    Nat.lt_of_lt_of_le (ends.generators ▸ inside) kept.generators
  refine ((leads _ result built opens.since.orderly isFree present).imp (fun _ _ => id)
    fun _ led => led.orderly.isSealed).bind fun _ final led => .modify ?_
  exact (opens.later led).finish isFree (Nat.lt_of_lt_of_le present led.generators)

/-- **The loop is closed** once its generator is free again where it may go on. -/
theorem close (builds : BuildsLoop free place none start world pending)
    {update : Generator → Generator}
    (goesOn : MayProceed (allBut free place) start world place (update (world.generator place))) :
    KeepsOrder free start (world.changeGenerator place update) := by
  refine builds.since.freeAgain (fun other spared => ?_) builds.isFree builds.inside
    builds.unfinished (fun block other isAt works => ?_) goesOn
  · rw [allBut, spared, Bool.false_and]
  · cases builds.deserted block other isAt works

end BuildsLoop

/-! ## Loops -/

namespace Generator

variable {free : GeneratorId → Bool} {start world : World} {place : GeneratorId}
  {pending : List BlockRef} {blocks : LoopBlocks}

/-- **The body of a loop is built**, if there is one. -/
theorem comesTo_buildBody {body? : Option Callback} (isSome : blocks.body.isSome = body?.isSome)
    (builds : BuildsLoop free place none start world (blocks.body.toList ++ pending))
    (distinct : (blocks.body.toList ++ pending).Nodup) (slots : List Operand)
    (keeps : ∀ body ∈ body?, body.KeepsOrder (allBut free place)) :
    ComesTo (buildBody place blocks slots body? blocks.body) world
      (fun _ after => BuildsLoop free place none start after pending) World.IsSealed := by
  cases begins : blocks.body with
  | none =>
      rw [begins] at builds
      cases body? <;> exact .pure builds
  | some block =>
      rw [begins] at isSome builds distinct
      cases body? with
      | none => cases isSome
      | some body =>
          exact builds.comesTo_part (List.nodup_cons.mp distinct).1 blocks (keeps body rfl)
            (fun part => leads_loadSlots part _) fun part result world orderly isFree inside =>
              comesTo_leadTo orderly isFree inside _

/-- **A condition branches** to the body and to the exit, unless its generator is finished. -/
theorem comesTo_branchOn (orderly : world.IsOrderly free) (isFree : free place = true)
    (inside : place < world.generators.length) (blocks : LoopBlocks) (result : Value) :
    ComesTo (branchOn place blocks result) world (fun _ after => KeepsOrder free world after)
      (KeepsOrder free world) := by
  refine .get ?_
  split
  · exact .pure orderly.keeps
  next unfinished =>
    refine EndsNothing.bind orderly (.of_sameCode (leads_coerce place result _ world))
      fun condition middle ends orderly => ?_
    exact orderly.keeps.endHere orderly isFree (ends.generators ▸ inside)
      (ends.generator place ▸ Bool.eq_false_iff.mpr unfinished) rfl

/-- **The condition of a loop is built**, if there is one. -/
theorem comesTo_buildCompare {compare? : Option Callback}
    (builds : BuildsLoop free place none start world
      ((if compare?.isSome then [blocks.header] else []) ++ pending))
    (distinct : ((if compare?.isSome then [blocks.header] else []) ++ pending).Nodup)
    (slots : List Operand)
    (keeps : ∀ compare ∈ compare?, compare.KeepsOrder (allBut free place)) :
    ComesTo (buildCompare place blocks slots compare?) world
      (fun _ after => BuildsLoop free place none start after pending) World.IsSealed := by
  cases compare? with
  | none => exact .pure builds
  | some compare =>
      exact builds.comesTo_part (List.nodup_cons.mp distinct).1 blocks (keeps compare rfl)
        (fun part => leads_loadSlots part _) fun part result world orderly isFree inside =>
          comesTo_branchOn orderly isFree inside blocks result

/-- **The increment of a loop is built**, if there is one. -/
theorem comesTo_buildIncrement {increment? : Option Callback}
    (isSome : blocks.increment.isSome = increment?.isSome)
    (builds : BuildsLoop free place none start world (blocks.increment.toList ++ pending))
    (distinct : (blocks.increment.toList ++ pending).Nodup) (slots : List Operand)
    (keeps : ∀ increment ∈ increment?, increment.KeepsOrder (allBut free place)) :
    ComesTo (buildIncrement place blocks slots increment? blocks.increment) world
      (fun _ after => BuildsLoop free place none start after pending) World.IsSealed := by
  cases begins : blocks.increment with
  | none =>
      rw [begins] at builds
      cases increment? <;> exact .pure builds
  | some block =>
      rw [begins] at isSome builds distinct
      cases increment? with
      | none => cases isSome
      | some increment =>
          exact builds.comesTo_part (List.nodup_cons.mp distinct).1 blocks (keeps increment rfl)
            (fun part => Leads.pure ((trimmed increment slots).map Value.operand))
            fun part result world orderly isFree inside => comesTo_leadTo orderly isFree inside _

/-- **All parts of a loop are built.** -/
theorem comesTo_buildParts {parts : LoopParts} (hasBody : blocks.body.isSome = parts.body.isSome)
    (hasIncrement : blocks.increment.isSome = parts.increment.isSome)
    (builds : BuildsLoop free place none start world (blocks.body.toList ++
      ((if parts.compare.isSome then [blocks.header] else []) ++
        (blocks.increment.toList ++ pending))))
    (distinct : (blocks.body.toList ++ ((if parts.compare.isSome then [blocks.header] else []) ++
      (blocks.increment.toList ++ pending))).Nodup) (slots : List Operand)
    (keeps : ∀ callback ∈ parts.callbacks, callback.KeepsOrder (allBut free place)) :
    ComesTo (buildParts place parts blocks slots) world
      (fun _ after => BuildsLoop free place none start after pending) World.IsSealed := by
  have later := (List.nodup_append.mp distinct).2.1
  refine (comesTo_buildBody hasBody builds distinct slots fun body chosen => keeps body ?_).bind
    fun _ bodied builds => ?_
  · simp [LoopParts.callbacks, Option.mem_def.mp chosen]
  refine (comesTo_buildCompare builds later slots fun compare chosen => keeps compare ?_).bind
    fun _ compared builds => ?_
  · simp [LoopParts.callbacks, Option.mem_def.mp chosen]
  refine comesTo_buildIncrement hasIncrement builds (List.nodup_append.mp later).2.1 slots
    fun increment chosen => keeps increment ?_
  simp [LoopParts.callbacks, Option.mem_def.mp chosen]

/-- Putting the exit of a loop at the end ends no block. -/
theorem endsNothing_moveToEnd {reference : FunctionRef} (there : world.Hosts reference)
    (exit : Value) : EndsNothing world ((moveToEnd reference exit).after world) := by
  suffices comes : ComesTo (moveToEnd reference exit) world (fun _ after => EndsNothing world after)
      (EndsNothing world) from comes.after
  refine .get ?_
  split
  · exact .of_after (Function.endsNothing_moveAfter there _ _)
  · exact .throw (IsEffect.refl world)

/-- **Loops keep order**, whatever their callbacks ask free generators for that are not theirs. -/
theorem comesTo_loop (orderly : world.IsOrderly free) (isFree : free place = true)
    (inside : place < world.generators.length) (initial : Value) {parts : LoopParts} (given : Value)
    (keeps : ∀ callback ∈ parts.callbacks, callback.KeepsOrder (allBut free place)) :
    ComesTo (loop place initial parts given) world (fun _ after => KeepsOrder free world after)
      World.IsSealed := by
  refine .unlessFinished (fun _ => orderly.keeps) fun unfinished => ?_
  cases parts.isEmpty with
  | true => exact .rejectThen orderly.isSealed
  | false =>
  refine .get (.get ?_)
  have stores {stored : World} (emits : Emits place world stored) : EndsNothing world stored :=
    emits.endsNothing orderly isFree inside unfinished
  refine ((ComesTo.of_leads (leads_createSlots place _)).imp (fun _ _ => id) fun _ emits =>
    (stores emits).isSealed orderly.isSealed).bind fun slots stored emits => ?_
  -- The slots are stored where the generator is. From here on it is not free.
  have begins := (BuildsLoop.refl orderly isFree inside unfinished).still (stores emits)
  refine begins.comesTo_loopHeader.bind fun header entered builds => ?_
  refine (builds.comesTo_loopBlocks parts given).bind ?_
  rintro blocks laid ⟨rfl, hasBody, hasIncrement, exits, endsAt, anew, distinct, builds⟩
  rw [List.append_assoc, List.append_assoc] at distinct builds
  refine (comesTo_buildParts hasBody hasIncrement builds distinct slots keeps).bind
    fun _ built builds => ?_
  cases isGiven : given.isGiven with
  | true =>
      refine ComesTo.through (fun _ after => KeepsOrder free world after)
        (.modify (builds.close ?_)) fun _ _ kept => .pure kept
      rw [builds.generator]
      exact
        { stands := builds.stands
          has := fun block isAt => builds.has isAt
          stays := fun block isAt _ => isAt
          alone := fun block other isAt works => by cases builds.deserted block other isAt works
          goesOn := fun _ goes => Bool.noConfusion goes }
  | false =>
      obtain ⟨exit, isExit, member⟩ := endsAt.exists_block (Bool.eq_false_iff.mp isGiven)
      rw [isExit]
      refine ComesTo.through (fun _ after => EndsNothing built after)
        ((ComesTo.of_after (endsNothing_moveToEnd builds.stands _)).imp (fun _ _ => id)
          fun _ ends => ends.isSealed builds.since.orderly.isSealed) fun _ moved ends => ?_
      have builds := builds.still ends
      refine ComesTo.through (fun _ after => KeepsOrder free world after)
        (.modify (builds.close ?_)) fun _ _ kept => .pure kept
      rw [builds.generator]
      exact (builds.vacant exit member).mayProceed (anew exit member) builds.stands rfl

end Generator

end StructuredIR
