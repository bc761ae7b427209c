import StructuredIR.Proofs.Finished
import StructuredIR.Proofs.Wiring.Constructions

/-! # Order among generators

A generator is finished when it ends its block, but other generators may have been at that block, and
while a loop is built its generator stays at a block that has ended. So that nothing is added behind a
terminator, generators have to keep out of each other's way. Some of them are free to be asked.

* **`World.IsOrderly`** is the invariant: nothing is behind a terminator, the generators that are free and
  not finished are at blocks that have not ended, and no two of them are at the same block.
* **`OrderSince`** relates a world to one from which work began: none of the free generators has come to
  a block that was there, and no such block has been ended but by a generator that was there.
* **`EndsNothing`** is what all steps do that end no block; **`OrderSince.append`**,
  **`OrderSince.withdraw`**, **`OrderSince.freeAgain`** and **`OrderSince.join`** are the others: a block
  is ended, a generator is not free any more, it is free again, and a generator comes up.
* **`IsVacant`** is said of a block at which a generator may go on. -/

namespace StructuredIR

open Build (Leads bind_eq_ok get_eq_ok modify_eq_ok pure_eq_ok)
open Generator (blockValue)

/-- The free generators without one of them. -/
def Generator.allBut (free : GeneratorId → Bool) (place : GeneratorId) : GeneratorId → Bool :=
  fun other => free other && other != place

@[simp]
theorem Generator.allBut_iff {free : GeneratorId → Bool} {place other : GeneratorId} :
    allBut free place other = true ↔ free other = true ∧ other ≠ place := by
  simp [allBut]

open Generator (allBut)

namespace World

/-- **Nothing is behind the first terminator** of any block. -/
def IsSealed (world : World) : Prop :=
  ∀ block, StructuredIR.IsSealed (world.row block)

/-- The routine of a function is there. -/
def Hosts (world : World) (reference : FunctionRef) : Prop :=
  (world.routine? (world.functionSymbol reference)).isSome

/-- A generator is at a block. -/
def IsAt (world : World) (place : GeneratorId) (block : BlockRef) : Prop :=
  (world.generator place).block = blockValue block

/-- **A generator is at work at a block**: it is free and there, it is not finished, and it is at the
block. -/
@[mk_iff worksAt_iff]
structure WorksAt (free : GeneratorId → Bool) (world : World) (place : GeneratorId)
    (block : BlockRef) : Prop where
  /-- It is free. -/
  isFree : free place = true
  /-- It is there. -/
  inside : place < world.generators.length
  /-- It is not finished. -/
  unfinished : (world.generator place).isFinished = false
  /-- It is at the block. -/
  isAt : world.IsAt place block

/-- **The free generators of a world are in order.** -/
structure IsOrderly (free : GeneratorId → Bool) (world : World) : Prop where
  /-- Nothing is behind a terminator. -/
  isSealed : world.IsSealed
  /-- Generators that come up are free. -/
  fresh (place : GeneratorId) : world.generators.length ≤ place → free place = true
  /-- The routines of their functions are there. -/
  stands (place : GeneratorId) : free place = true → place < world.generators.length →
    world.Hosts (world.generator place).function
  /-- The blocks at which they are are there. -/
  standing (place : GeneratorId) (block : BlockRef) : free place = true →
    place < world.generators.length → world.IsAt place block → world.Has block
  /-- Those that are not finished are at blocks that have not ended. -/
  opened (place : GeneratorId) (block : BlockRef) : world.WorksAt free place block →
    world.isTerminated block = false
  /-- No two of those are at the same block. -/
  apart (first second : GeneratorId) (block : BlockRef) : world.WorksAt free first block →
    world.WorksAt free second block → first = second

end World

/-- **Order since some world**, as far as free generators and blocks that are watched are concerned.
Generators that are spared are left alone. -/
structure OrderSince (free : GeneratorId → Bool) (watched : BlockRef → Prop)
    (spared : GeneratorId → Prop) (start world : World) : Prop where
  /-- The world is in order. -/
  orderly : world.IsOrderly free
  /-- What is watched was there. -/
  known (block : BlockRef) : watched block → start.Has block
  /-- Generators stay there. -/
  generators : start.generators.length ≤ world.generators.length
  /-- Blocks stay there. -/
  blockCount (symbol : SymbolRef) : start.blockCount symbol ≤ world.blockCount symbol
  /-- Routines stay there. -/
  routines (reference : FunctionRef) : start.Hosts reference → world.Hosts reference
  /-- Generators that are spared are what they were. -/
  aside (place : GeneratorId) : spared place → place < start.generators.length →
    world.generator place = start.generator place
  /-- Generators that were finished are what they were. -/
  finished (place : GeneratorId) : free place = true → place < start.generators.length →
    (start.generator place).isFinished = true → world.generator place = start.generator place
  /-- A generator is at work at a watched block only if it was. -/
  comes (place : GeneratorId) (block : BlockRef) : world.WorksAt free place block → watched block →
    start.WorksAt free place block
  /-- A generator that was there is at a block that was there only if it was at that block. -/
  stays (place : GeneratorId) (block : BlockRef) : free place = true →
    place < start.generators.length → world.IsAt place block → start.Has block →
      start.IsAt place block
  /-- Where a generator is that was there and was not finished, no other one is at work, even if it is
  finished now. -/
  alone (place other : GeneratorId) (block : BlockRef) : free place = true →
    place < start.generators.length → (start.generator place).isFinished = false →
      world.IsAt place block → world.WorksAt free other block → other = place
  /-- Watched blocks are ended only by generators that were at work there. -/
  ends (block : BlockRef) : watched block → world.isTerminated block = true →
    start.isTerminated block = true ∨ ∃ place, start.WorksAt free place block

/-- **Order is kept**: all blocks that were there are watched, and generators that are not free are
spared. -/
abbrev KeepsOrder (free : GeneratorId → Bool) (before after : World) : Prop :=
  OrderSince free before.Has (fun place => free place = false) before after

/-- **A block is vacant** since some world: a generator may go on there. It is not watched and has not
ended, no generator is at work there, and none has gone there that was there and not finished. -/
structure IsVacant (free : GeneratorId → Bool) (watched : BlockRef → Prop) (start world : World)
    (block : BlockRef) : Prop where
  /-- It is there. -/
  has : world.Has block
  /-- It has not ended. -/
  opened : world.isTerminated block = false
  /-- It is not watched. -/
  unwatched : ¬ watched block
  /-- No generator is at work there. -/
  unused (place : GeneratorId) : ¬ world.WorksAt free place block
  /-- No generator has gone there. -/
  unvisited (place : GeneratorId) : free place = true → place < start.generators.length →
    (start.generator place).isFinished = false → ¬ world.IsAt place block

/-! ## Where generators are -/

namespace World

variable {free : GeneratorId → Bool} {world after : World} {place other : GeneratorId}
  {block : BlockRef} {record : Generator} {update : Generator → Generator}

/-- A generator that is at work is free and is not the one that is left out. -/
theorem worksAt_allBut :
    world.WorksAt (allBut free place) other block ↔ world.WorksAt free other block ∧ other ≠ place := by
  rw [worksAt_iff, worksAt_iff, Generator.allBut_iff]
  tauto

/-- Generators are what they were if all of them are. -/
theorem generator_congr (same : after.generators = world.generators) (place : GeneratorId) :
    after.generator place = world.generator place := by
  rw [generator, generator, same]

/-- They are where they were. -/
theorem isAt_congr (same : after.generators = world.generators) :
    after.IsAt place block ↔ world.IsAt place block := by
  rw [IsAt, IsAt, generator_congr same]

/-- They are at work where they were. -/
theorem worksAt_congr (same : after.generators = world.generators) :
    after.WorksAt free place block ↔ world.WorksAt free place block := by
  rw [worksAt_iff, worksAt_iff, isAt_congr same, generator_congr same, same]

/-! ### Changing one of them -/

theorem generator_changeGenerator_self (inside : place < world.generators.length)
    (update : Generator → Generator) :
    (world.changeGenerator place update).generator place = update (world.generator place) := by
  rw [generator_changeGenerator, if_pos ⟨rfl, inside⟩]

theorem generator_changeGenerator_of_ne (different : other ≠ place)
    (update : Generator → Generator) :
    (world.changeGenerator place update).generator other = world.generator other := by
  rw [generator_changeGenerator, if_neg fun both => different both.1]

/-- The other ones are where they were. -/
theorem isAt_changeGenerator_of_ne (different : other ≠ place) :
    (world.changeGenerator place update).IsAt other block ↔ world.IsAt other block := by
  rw [IsAt, IsAt, generator_changeGenerator_of_ne different]

/-- The other ones are at work where they were. -/
theorem worksAt_changeGenerator_of_ne (different : other ≠ place) :
    (world.changeGenerator place update).WorksAt free other block ↔
      world.WorksAt free other block := by
  rw [worksAt_iff, worksAt_iff, isAt_changeGenerator_of_ne different, length_changeGenerator,
    generator_changeGenerator_of_ne different]

/-- What is at work then is the generator that has changed, or it was at work before. -/
theorem worksAt_changeGenerator (inside : place < world.generators.length)
    (works : (world.changeGenerator place update).WorksAt free other block) :
    (other = place ∧ (update (world.generator place)).isFinished = false ∧
        (update (world.generator place)).block = blockValue block) ∨
      world.WorksAt (allBut free place) other block := by
  by_cases different : other = place
  · subst different
    have own := generator_changeGenerator_self inside update
    exact .inl ⟨rfl, own ▸ works.unfinished, own ▸ works.isAt⟩
  · exact .inr (worksAt_allBut.mpr ⟨(worksAt_changeGenerator_of_ne different).mp works, different⟩)

/-- A generator that is finished is not at work. -/
theorem not_worksAt_finish (inside : place < world.generators.length) :
    ¬ (world.changeGenerator place fun generator => { generator with isFinished := true }).WorksAt
      free place block := by
  intro works
  have unfinished := works.unfinished
  rw [generator_changeGenerator_self inside] at unfinished
  cases unfinished

/-! ### One more of them -/

theorem generator_joined_self (world : World) (record : Generator) :
    (world.joined record).generator world.generators.length = record := by
  rw [generator_append, if_pos rfl]

theorem generator_joined_of_ne (different : other ≠ world.generators.length) (record : Generator) :
    (world.joined record).generator other = world.generator other := by
  rw [generator_append, if_neg different]

theorem lt_of_joined (different : other ≠ world.generators.length)
    (inside : other < (world.joined record).generators.length) : other < world.generators.length := by
  rw [List.length_append] at inside
  exact Nat.lt_of_le_of_ne (Nat.le_of_lt_succ inside) different

/-- The other ones are where they were. -/
theorem isAt_joined_of_ne (different : other ≠ world.generators.length) :
    (world.joined record).IsAt other block ↔ world.IsAt other block := by
  rw [IsAt, IsAt, generator_joined_of_ne different]

/-- What is at work then is the new generator, or it was at work before. -/
theorem worksAt_joined (works : (world.joined record).WorksAt free other block) :
    (other = world.generators.length ∧ record.block = blockValue block) ∨
      world.WorksAt free other block := by
  by_cases different : other = world.generators.length
  · subst different
    exact .inl ⟨rfl, generator_joined_self world record ▸ works.isAt⟩
  · exact .inr ⟨works.isFree, lt_of_joined different works.inside,
      generator_joined_of_ne different record ▸ works.unfinished,
      (isAt_joined_of_ne different).mp works.isAt⟩

end World

/-! ## Order as such -/

namespace World

variable {free : GeneratorId → Bool} {world : World} {place other : GeneratorId} {block : BlockRef}

/-- Generators are in order without one of them that is there. -/
theorem IsOrderly.fewer (orderly : world.IsOrderly free)
    (inside : place < world.generators.length) : world.IsOrderly (allBut free place) where
  isSealed := orderly.isSealed
  fresh other beyond := Generator.allBut_iff.mpr
    ⟨orderly.fresh other beyond, Nat.ne_of_gt (Nat.lt_of_lt_of_le inside beyond)⟩
  stands other isFree := orderly.stands other (Generator.allBut_iff.mp isFree).1
  standing other block isFree := orderly.standing other block (Generator.allBut_iff.mp isFree).1
  opened other block works := orderly.opened other block (worksAt_allBut.mp works).1
  apart first second block left right :=
    orderly.apart first second block (worksAt_allBut.mp left).1 (worksAt_allBut.mp right).1

end World

namespace OrderSince

variable {free : GeneratorId → Bool} {watched : BlockRef → Prop} {spared : GeneratorId → Prop}
  {start middle world after : World} {place : GeneratorId} {block : BlockRef}

/-- Nothing has happened yet. -/
theorem refl (orderly : world.IsOrderly free) (known : ∀ block, watched block → world.Has block) :
    OrderSince free watched spared world world where
  orderly := orderly
  known := known
  generators := Nat.le_refl _
  blockCount _ := Nat.le_refl _
  routines _ := id
  aside _ _ _ := rfl
  finished _ _ _ _ := rfl
  comes _ _ works _ := works
  stays _ _ _ _ isAt _ := isAt
  alone place other block isFree inside unfinished isAt works :=
    orderly.apart other place block works ⟨isFree, inside, unfinished, isAt⟩
  ends _ _ ended := .inl ended

/-- Blocks stay there. -/
theorem has (since : OrderSince free watched spared start world) (known : start.Has block) :
    world.Has block :=
  Nat.lt_of_lt_of_le known (since.blockCount block.routine)

/-- **Order is kept further.** -/
theorem trans (first : OrderSince free watched spared start middle)
    (second : KeepsOrder free middle after) (spares : ∀ place, spared place → free place = false) :
    OrderSince free watched spared start after where
  orderly := second.orderly
  known := first.known
  generators := Nat.le_trans first.generators second.generators
  blockCount symbol := Nat.le_trans (first.blockCount symbol) (second.blockCount symbol)
  routines reference there := second.routines reference (first.routines reference there)
  aside place spare inside := by
    rw [second.aside place (spares place spare) (Nat.lt_of_lt_of_le inside first.generators),
      first.aside place spare inside]
  finished place isFree inside isFinished := by
    have same := first.finished place isFree inside isFinished
    rw [second.finished place isFree (Nat.lt_of_lt_of_le inside first.generators)
      (same ▸ isFinished), same]
  comes place block works watch :=
    first.comes place block
      (second.comes place block works (first.has (first.known block watch))) watch
  stays place block isFree inside isAt there :=
    first.stays place block isFree inside
      (second.stays place block isFree (Nat.lt_of_lt_of_le inside first.generators) isAt
        (first.has there)) there
  alone place other block isFree inside unfinished isAt works := by
    have still := Nat.lt_of_lt_of_le inside first.generators
    cases isFinished : (middle.generator place).isFinished with
    | false => exact second.alone place other block isFree still isFinished isAt works
    | true =>
        -- What was finished meanwhile has not moved, so the other one was there already.
        have same := second.finished place isFree still isFinished
        rw [World.IsAt, same] at isAt
        have there := first.orderly.standing place block isFree still isAt
        exact first.alone place other block isFree inside unfinished isAt
          (second.comes other block works there)
  ends block watch ended := by
    rcases second.ends block (first.has (first.known block watch)) ended with ended | ⟨place, works⟩
    · exact first.ends block watch ended
    · exact .inr ⟨place, first.comes place block works watch⟩

end OrderSince

/-- A world that is in order keeps it while nothing happens. -/
theorem World.IsOrderly.keeps {free : GeneratorId → Bool} {world : World}
    (orderly : world.IsOrderly free) : KeepsOrder free world world :=
  .refl orderly fun _ => id

/-- A block that is vacant stays so while order is kept. -/
theorem IsVacant.later {free : GeneratorId → Bool} {watched : BlockRef → Prop}
    {start world after : World} {block : BlockRef}
    (vacant : IsVacant free watched start world block) (generators :
      start.generators.length ≤ world.generators.length) (keeps : KeepsOrder free world after) :
    IsVacant free watched start after block where
  has := keeps.has vacant.has
  opened := by
    by_contra ended
    rcases keeps.ends block vacant.has (Bool.not_eq_false _ ▸ ended) with ended | ⟨place, works⟩
    · rw [vacant.opened] at ended
      cases ended
    · exact vacant.unused place works
  unwatched := vacant.unwatched
  unused place works := vacant.unused place (keeps.comes place block works vacant.has)
  unvisited place isFree inside unfinished isAt :=
    vacant.unvisited place isFree inside unfinished (keeps.stays place block isFree
      (Nat.lt_of_lt_of_le inside generators) isAt vacant.has)

/-! ## Steps that end no block -/

/-- A row stays sealed if something straight comes in front of it. -/
theorem IsSealed.cons {row : List Instruction} {first : Instruction} (isSealed : IsSealed row)
    (straight : first.operation.isTerminator = false) : IsSealed (first :: row) := by
  cases row with
  | nil => exact IsStraight.nil
  | cons second rest =>
      intro instruction member
      rw [List.dropLast_cons_of_ne_nil (List.cons_ne_nil _ _)] at member
      rcases List.mem_cons.mp member with rfl | member
      · exact straight
      · exact isSealed instruction member

/-- A straight row is sealed, whatever comes behind it. -/
theorem IsStraight.isSealed_append {row : List Instruction} (straight : IsStraight row)
    (last : Instruction) : IsSealed (row ++ [last]) := by
  rwa [IsSealed, List.dropLast_concat]

/-- A straight row is sealed. -/
theorem IsStraight.isSealed {row : List Instruction} (straight : IsStraight row) : IsSealed row :=
  fun instruction member => straight instruction (List.mem_of_mem_dropLast member)

/-- **No block is ended** that was there, and generators and routines stay as they are. -/
structure EndsNothing (before after : World) : Prop where
  /-- The generators are the same. -/
  generators : after.generators = before.generators
  /-- Routines stay there. -/
  routines (reference : FunctionRef) : before.Hosts reference → after.Hosts reference
  /-- Blocks stay there. -/
  blockCount (symbol : SymbolRef) : before.blockCount symbol ≤ after.blockCount symbol
  /-- Nothing comes behind a terminator. -/
  isSealed : before.IsSealed → after.IsSealed
  /-- Blocks that were there have ended if they had. -/
  ended (block : BlockRef) : before.Has block → after.isTerminated block = before.isTerminated block

instance : IsEffect EndsNothing where
  refl _ := ⟨rfl, fun _ => id, fun _ => Nat.le_refl _, id, fun _ _ => rfl⟩
  trans first second :=
    { generators := second.generators.trans first.generators
      routines := fun reference there => second.routines reference (first.routines reference there)
      blockCount := fun symbol => Nat.le_trans (first.blockCount symbol) (second.blockCount symbol)
      isSealed := fun isSealed => second.isSealed (first.isSealed isSealed)
      ended := fun block known => by
        rw [second.ended block (Nat.lt_of_lt_of_le known (first.blockCount block.routine)),
          first.ended block known] }

namespace EndsNothing

variable {before middle after : World} {place : GeneratorId} {block : BlockRef}

/-- Routines stay there if functions stand for the same ones, and these yield what they did. -/
theorem routines_of_result
    (function? : ∀ reference, after.function? reference = before.function? reference)
    (result : ∀ symbol type, (before.routine? symbol).map Routine.result = some type →
      (after.routine? symbol).map Routine.result = some type)
    (reference : FunctionRef) (there : before.Hosts reference) : after.Hosts reference := by
  obtain ⟨routine, found⟩ := Option.isSome_iff_exists.mp there
  have same : after.functionSymbol reference = before.functionSymbol reference := by
    rw [World.functionSymbol, World.functionSymbol, World.function_eq, World.function_eq, function?]
  have kept := result (before.functionSymbol reference) routine.result (by rw [found]; rfl)
  rw [World.Hosts, same, ← Option.isSome_map (f := Routine.result), kept]
  rfl

/-- Where instructions differ and nothing else does, no block is ended if none is in the rows. -/
theorem of_frame (frame : SameFrame before after)
    (isSealed : before.IsSealed → after.IsSealed)
    (ended : ∀ block, before.Has block → after.isTerminated block = before.isTerminated block) :
    EndsNothing before after where
  generators := frame.generators
  routines := routines_of_result frame.function? frame.result
  blockCount symbol := Nat.le_of_eq (frame.blockCount symbol).symm
  isSealed := isSealed
  ended := ended

/-- Where no instructions differ, no block is ended. -/
theorem of_rows (generators : after.generators = before.generators)
    (routines : ∀ reference, before.Hosts reference → after.Hosts reference)
    (blockCount : ∀ symbol, before.blockCount symbol ≤ after.blockCount symbol)
    (row : ∀ block, after.row block = before.row block) : EndsNothing before after where
  generators := generators
  routines := routines
  blockCount := blockCount
  isSealed isSealed block := by
    rw [row]
    exact isSealed block
  ended block _ := by rw [World.isTerminated_eq, World.isTerminated_eq, row]

/-- Where no code differs, no block is ended. -/
theorem of_sameCode (same : SameCode before after) : EndsNothing before after :=
  .of_rows same.generators (routines_of_result same.function? same.result)
    (fun symbol => Nat.le_of_eq (same.blockCount symbol).symm) same.row

/-- Straight-line operations end no block, if the one at which the generator is has not ended. -/
theorem of_emits (emits : Emits place before after)
    (opened : ∀ block, before.IsAt place block → before.isTerminated block = false) :
    EndsNothing before after := by
  refine .of_frame emits.toSameFrame (fun isSealed block => ?_) fun block _ => ?_
  · obtain ⟨added, straight, row, here⟩ := emits.row block
    rw [row]
    rcases here with rfl | isAt
    · rw [List.append_nil]
      exact isSealed block
    · exact ((World.isStraight_of_isTerminated (opened block isAt)).append straight).isSealed
  · obtain ⟨added, straight, row, -⟩ := emits.row block
    rw [World.isTerminated_eq, World.isTerminated_eq, row, List.any_append,
      Bool.or_eq_left_iff_imp]
    intro ended
    obtain ⟨instruction, member, terminates⟩ := List.any_eq_true.mp ended
    rw [straight instruction member] at terminates
    cases terminates

/-- One more block ends none. -/
theorem of_addsBlock {symbol : SymbolRef} (adds : AddsBlock symbol before after) :
    EndsNothing before after := by
  refine .of_rows adds.generators (routines_of_result adds.function? adds.result) (fun other => ?_)
    adds.row
  rw [adds.blockCount]
  split
  next same => exact same ▸ Nat.le_succ _
  next => exact Nat.le_refl _

/-- Another order ends no block. -/
theorem of_reorders {symbol : SymbolRef} {order : List Nat}
    (reorders : Reorders symbol order before after) : EndsNothing before after :=
  .of_rows reorders.generators (routines_of_result reorders.function? reorders.result)
    (fun other => Nat.le_of_eq (reorders.blockCount other).symm) reorders.row

/-- What is recorded of a function may change, as long as it stands for the same routine. -/
theorem of_changeFunction (world : World) (reference : FunctionRef) {update : Function → Function}
    (symbol : ∀ function, (update function).symbol = function.symbol) :
    EndsNothing world (world.changeFunction reference update) := by
  refine .of_rows rfl (fun other there => ?_) (fun symbol => ?_) fun block => ?_
  · rw [World.Hosts, World.functionSymbol_changeFunction _ _ _ symbol,
      World.routine?_changeFunction]
    exact there
  · rw [World.blockCount_changeFunction]
  · rw [World.row_changeFunction]

/-- A straight instruction may come in front of a block. -/
theorem of_prepend {made : Instruction} (changes : ChangesRow block (made :: ·) before after)
    (straight : made.operation.isTerminator = false) : EndsNothing before after := by
  refine .of_frame changes.toSameFrame (fun isSealed other => ?_) fun other _ => ?_
  · rw [changes.row]
    split
    · exact (isSealed block).cons straight
    · exact isSealed other
  · rw [World.isTerminated_eq, World.isTerminated_eq, changes.row]
    split
    next same => rw [same.1, List.any_cons, straight, Bool.false_or]
    next => rfl

/-- An instruction may come behind a block that has come up meanwhile and has not ended. -/
theorem append (first : EndsNothing before middle) {made : Instruction}
    (changes : ChangesRow block (· ++ [made]) middle after) (isNew : ¬ before.Has block)
    (opened : middle.isTerminated block = false) : EndsNothing before after where
  generators := changes.generators.trans first.generators
  routines reference there :=
    routines_of_result changes.function? changes.result reference
      (first.routines reference there)
  blockCount symbol := by
    rw [changes.blockCount]
    exact first.blockCount symbol
  isSealed isSealed other := by
    rw [changes.row]
    split
    · exact (World.isStraight_of_isTerminated opened).isSealed_append made
    · exact first.isSealed isSealed other
  ended other known := by
    have different : other ≠ block := fun same => isNew (same ▸ known)
    rw [← first.ended other known, World.isTerminated_eq, World.isTerminated_eq, changes.row,
      if_neg fun both => different both.1]

end EndsNothing

namespace OrderSince

variable {free : GeneratorId → Bool} {watched : BlockRef → Prop} {spared : GeneratorId → Prop}
  {start world after : World} {place : GeneratorId} {block : BlockRef}

/-- **Order stays** where the generators do, as long as no block is ended that is watched or at which a
generator is at work. -/
theorem still (since : OrderSince free watched spared start world)
    (generators : after.generators = world.generators)
    (routines : ∀ reference, world.Hosts reference → after.Hosts reference)
    (blockCount : ∀ symbol, world.blockCount symbol ≤ after.blockCount symbol)
    (isSealed : after.IsSealed)
    (ended : ∀ block, (watched block ∨ ∃ place, world.WorksAt free place block) →
      after.isTerminated block = world.isTerminated block) :
    OrderSince free watched spared start after := by
  have same := World.generator_congr generators
  have isAt {other : GeneratorId} {block : BlockRef} (there : after.IsAt other block) :
      world.IsAt other block := (World.isAt_congr generators).mp there
  have works {other : GeneratorId} {block : BlockRef} (there : after.WorksAt free other block) :
      world.WorksAt free other block := (World.worksAt_congr generators).mp there
  exact
    { orderly :=
        { isSealed := isSealed
          fresh := fun other beyond => since.orderly.fresh other (generators ▸ beyond)
          stands := fun other isFree inside => same other ▸
            routines _ (since.orderly.stands other isFree (generators ▸ inside))
          standing := fun other block isFree inside there =>
            Nat.lt_of_lt_of_le
              (since.orderly.standing other block isFree (generators ▸ inside) (isAt there))
              (blockCount block.routine)
          opened := fun other block there =>
            (ended block (.inr ⟨other, works there⟩)).trans
              (since.orderly.opened other block (works there))
          apart := fun first second block left right =>
            since.orderly.apart first second block (works left) (works right) }
      known := since.known
      generators := generators ▸ since.generators
      blockCount := fun symbol => Nat.le_trans (since.blockCount symbol) (blockCount symbol)
      routines := fun reference there => routines reference (since.routines reference there)
      aside := fun other spare inside => (same other).trans (since.aside other spare inside)
      finished := fun other isFree inside isFinished =>
        (same other).trans (since.finished other isFree inside isFinished)
      comes := fun other block there => since.comes other block (works there)
      stays := fun other block isFree inside there => since.stays other block isFree inside (isAt there)
      alone := fun place other block isFree inside unfinished there working =>
        since.alone place other block isFree inside unfinished (isAt there) (works working)
      ends := fun block watch hasEnded =>
        since.ends block watch (ended block (.inl watch) ▸ hasEnded) }

/-- **A block is ended** that is not watched, and at which no free generator is at work. -/
theorem append (since : OrderSince free watched spared start world) {made : Instruction}
    (changes : ChangesRow block (· ++ [made]) world after)
    (opened : world.isTerminated block = false) (unwatched : ¬ watched block)
    (unused : ∀ place, ¬ world.WorksAt free place block) :
    OrderSince free watched spared start after := by
  refine since.still changes.generators
    (EndsNothing.routines_of_result changes.function? changes.result)
    (fun symbol => Nat.le_of_eq (changes.blockCount symbol).symm) (fun other => ?_) fun other meant => ?_
  · rw [changes.row]
    split
    · exact (World.isStraight_of_isTerminated opened).isSealed_append made
    · exact since.orderly.isSealed other
  · have different : other ≠ block := by
      rintro rfl
      rcases meant with watch | ⟨place, works⟩
      · exact unwatched watch
      · exact unused place works
    rw [World.isTerminated_eq, World.isTerminated_eq, changes.row, if_neg fun both => different both.1]

/-- **A generator is not free any more**, and the block at which it was is not watched any more. -/
theorem withdraw (since : OrderSince free watched spared start world)
    (inside : place < start.generators.length) :
    OrderSince (allBut free place) (fun block => watched block ∧ ¬ start.IsAt place block) spared
      start world where
  orderly := since.orderly.fewer (Nat.lt_of_lt_of_le inside since.generators)
  known block watch := since.known block watch.1
  generators := since.generators
  blockCount := since.blockCount
  routines := since.routines
  aside := since.aside
  finished other isFree := since.finished other (Generator.allBut_iff.mp isFree).1
  comes other block works watch :=
    have both := World.worksAt_allBut.mp works
    World.worksAt_allBut.mpr ⟨since.comes other block both.1 watch.1, both.2⟩
  stays other block isFree := since.stays other block (Generator.allBut_iff.mp isFree).1
  alone first other block isFree inside unfinished isAt works :=
    since.alone first other block (Generator.allBut_iff.mp isFree).1 inside unfinished isAt
      (World.worksAt_allBut.mp works).1
  ends block watch ended := by
    rcases since.ends block watch.1 ended with ended | ⟨other, works⟩
    · exact .inl ended
    · -- What the generator itself has ended is not watched any more.
      refine .inr ⟨other, World.worksAt_allBut.mpr ⟨works, ?_⟩⟩
      rintro rfl
      exact watch.2 works.isAt

end OrderSince

/-- **Order is kept** by steps that end no block. -/
theorem EndsNothing.keepsOrder {free : GeneratorId → Bool} {before after : World}
    (ends : EndsNothing before after) (orderly : before.IsOrderly free) :
    KeepsOrder free before after := by
  refine orderly.keeps.still ends.generators ends.routines ends.blockCount
    (ends.isSealed orderly.isSealed) fun block meant => ends.ended block ?_
  rcases meant with known | ⟨place, works⟩
  · exact known
  · exact orderly.standing place block works.isFree works.inside works.isAt

/-! ## Generators that go on -/

/-- **Where a generator may go on** that is free again: it is finished at the block at which it was, or
it is at a vacant one. -/
structure MayProceed (free : GeneratorId → Bool) (start world : World) (place : GeneratorId)
    (record : Generator) : Prop where
  /-- The routine of its function is there. -/
  stands : world.Hosts record.function
  /-- The block is there. -/
  has (block : BlockRef) : record.block = blockValue block → world.Has block
  /-- If the block was there, the generator was at it. -/
  stays (block : BlockRef) : record.block = blockValue block → start.Has block →
    start.IsAt place block
  /-- No other one is at work there. -/
  alone (block : BlockRef) (other : GeneratorId) : record.block = blockValue block →
    ¬ world.WorksAt free other block
  /-- If it is not finished, the block is a new one, has not ended, and no other one has gone there. -/
  goesOn (block : BlockRef) : record.isFinished = false → record.block = blockValue block →
    world.isTerminated block = false ∧ ¬ start.Has block ∧ ∀ other, free other = true →
      other < start.generators.length → (start.generator other).isFinished = false →
        ¬ world.IsAt other block

/-- A generator may go on at a vacant block that was not there. -/
theorem IsVacant.mayProceed {free : GeneratorId → Bool} {watched : BlockRef → Prop}
    {start world : World} {block : BlockRef} (vacant : IsVacant free watched start world block)
    (isNew : ¬ start.Has block) {place : GeneratorId} {record : Generator}
    (stands : world.Hosts record.function) (isAt : record.block = blockValue block) :
    MayProceed free start world place record := by
  have same {other : BlockRef} (there : record.block = blockValue other) : other = block := by
    cases isAt.symm.trans there
    rfl
  exact
    { stands := stands
      has := fun other there => same there ▸ vacant.has
      stays := fun other there known => absurd known (same there ▸ isNew)
      alone := fun other place there => same there ▸ vacant.unused place
      goesOn := fun other _ there => same there ▸ ⟨vacant.opened, isNew, vacant.unvisited⟩ }

/-- A generator that is to be finished may do so where it is. -/
theorem KeepsOrder.mayFinish {free : GeneratorId → Bool} {start world : World} {place : GeneratorId}
    (since : KeepsOrder free start world) (isFree : free place = true)
    (inside : place < start.generators.length)
    (unfinished : (start.generator place).isFinished = false) :
    MayProceed (allBut free place) start world place
      { world.generator place with isFinished := true } :=
  have present := Nat.lt_of_lt_of_le inside since.generators
  { stands := since.orderly.stands place isFree present
    has := fun block isAt => since.orderly.standing place block isFree present isAt
    stays := fun block isAt known => since.stays place block isFree inside isAt known
    alone := fun block other isAt works =>
      have both := World.worksAt_allBut.mp works
      both.2 (since.alone place other block isFree inside unfinished isAt both.1)
    goesOn := fun _ goes => Bool.noConfusion goes }

/-- A generator that is to be finished may do so behind a block that has been ended. -/
theorem MayProceed.append {free : GeneratorId → Bool} {start world after : World}
    {place : GeneratorId} {record : Generator} (may : MayProceed free start world place record)
    (isFinished : record.isFinished = true) {block : BlockRef} {made : Instruction}
    (changes : ChangesRow block (· ++ [made]) world after) :
    MayProceed free start after place record where
  stands := EndsNothing.routines_of_result changes.function? changes.result _ may.stands
  has other isAt := by
    rw [World.Has, changes.blockCount]
    exact may.has other isAt
  stays := may.stays
  alone other visitor isAt works :=
    may.alone other visitor isAt ((World.worksAt_congr changes.generators).mp works)
  goesOn _ goes := by
    rw [isFinished] at goes
    cases goes

/-- No other generator is at work where a generator was that was not finished. -/
theorem KeepsOrder.deserted {free : GeneratorId → Bool} {start world : World}
    {place other : GeneratorId} {block : BlockRef} (since : KeepsOrder free start world)
    (begun : start.IsOrderly free) (isFree : free place = true)
    (inside : place < start.generators.length)
    (unfinished : (start.generator place).isFinished = false) (stood : start.IsAt place block) :
    ¬ world.WorksAt (allBut free place) other block := by
  intro works
  have both := World.worksAt_allBut.mp works
  have known := begun.standing place block isFree inside stood
  exact both.2 (begun.apart other place block (since.comes other block both.1 known)
    ⟨isFree, inside, unfinished, stood⟩)

/-- Generators are in order once one of them is free again that may go on. -/
theorem World.IsOrderly.freeAgain {free : GeneratorId → Bool} {start world : World}
    {place : GeneratorId} {update : Generator → Generator}
    (orderly : world.IsOrderly (allBut free place)) (present : place < world.generators.length)
    (goesOn : MayProceed (allBut free place) start world place (update (world.generator place))) :
    (world.changeGenerator place update).IsOrderly free := by
  have own := generator_changeGenerator_self present update
  have length := world.length_changeGenerator place update
  refine ⟨orderly.isSealed, fun other beyond => ?_, fun other isFree early => ?_,
    fun other block isFree early isAt => ?_, fun other block works => ?_,
    fun first second block left right => ?_⟩
  · exact (Generator.allBut_iff.mp (orderly.fresh other (length ▸ beyond))).1
  · by_cases different : other = place
    · subst different
      rw [own]
      exact goesOn.stands
    · rw [generator_changeGenerator_of_ne different]
      exact orderly.stands other (Generator.allBut_iff.mpr ⟨isFree, different⟩) (length ▸ early)
  · by_cases different : other = place
    · subst different
      exact goesOn.has block (own ▸ isAt)
    · exact orderly.standing other block (Generator.allBut_iff.mpr ⟨isFree, different⟩)
        (length ▸ early) ((isAt_changeGenerator_of_ne different).mp isAt)
  · rcases worksAt_changeGenerator present works with ⟨-, goes, isAt⟩ | works
    · exact (goesOn.goesOn block goes isAt).1
    · exact orderly.opened other block works
  · -- Where the generator goes on no other one is at work.
    rcases worksAt_changeGenerator present left with ⟨rfl, -, isAt⟩ | left <;>
      rcases worksAt_changeGenerator present right with ⟨rfl, -, isAt'⟩ | right
    · rfl
    · exact absurd right (goesOn.alone block second isAt)
    · exact absurd left (goesOn.alone block first isAt')
    · exact orderly.apart first second block left right

/-- Generators are in order once one comes up at a vacant block. -/
theorem World.IsOrderly.join {free : GeneratorId → Bool} {watched : BlockRef → Prop}
    {start world : World} {block : BlockRef} {record : Generator} (orderly : world.IsOrderly free)
    (vacant : IsVacant free watched start world block) (isAt : record.block = blockValue block)
    (stands : world.Hosts record.function) : (world.joined record).IsOrderly free := by
  have own := world.generator_joined_self record
  have here {other : BlockRef} (there : record.block = blockValue other) : other = block := by
    cases isAt.symm.trans there
    rfl
  refine ⟨orderly.isSealed, fun other beyond => ?_, fun other isFree inside => ?_,
    fun other there isFree inside stood => ?_, fun other there works => ?_,
    fun first second there left right => ?_⟩
  · rw [List.length_append] at beyond
    exact orderly.fresh other (Nat.le_of_succ_le beyond)
  · by_cases different : other = world.generators.length
    · rw [different, own]
      exact stands
    · rw [generator_joined_of_ne different]
      exact orderly.stands other isFree (lt_of_joined different inside)
  · by_cases different : other = world.generators.length
    · subst different
      rw [IsAt, own] at stood
      exact here stood ▸ vacant.has
    · exact orderly.standing other there isFree (lt_of_joined different inside)
        ((isAt_joined_of_ne different).mp stood)
  · rcases worksAt_joined works with ⟨-, there⟩ | works
    · exact here there ▸ vacant.opened
    · exact orderly.opened other there works
  · rcases worksAt_joined left with ⟨rfl, stood⟩ | left <;>
      rcases worksAt_joined right with ⟨rfl, stood'⟩ | right
    · rfl
    · exact absurd (here stood ▸ right) (vacant.unused second)
    · exact absurd (here stood' ▸ left) (vacant.unused first)
    · exact orderly.apart first second there left right

namespace OrderSince

variable {free : GeneratorId → Bool} {watched : BlockRef → Prop} {spared others : GeneratorId → Prop}
  {start world : World} {place : GeneratorId}

/-- **A generator is free again** where it may go on, if no other one is at work where it was. -/
theorem freeAgain {update : Generator → Generator}
    (since : OrderSince (allBut free place) (fun block => start.Has block ∧ ¬ start.IsAt place block)
      others start world)
    (spares : ∀ other, free other = false → others other) (isFree : free place = true)
    (inside : place < start.generators.length)
    (unfinished : (start.generator place).isFinished = false)
    (left : ∀ block other, start.IsAt place block →
      ¬ world.WorksAt (allBut free place) other block)
    (goesOn : MayProceed (allBut free place) start world place (update (world.generator place))) :
    KeepsOrder free start (world.changeGenerator place update) := by
  have present := Nat.lt_of_lt_of_le inside since.generators
  have own := World.generator_changeGenerator_self present update
  have same {other : GeneratorId} (different : other ≠ place) :
      (world.changeGenerator place update).generator other = world.generator other :=
    World.generator_changeGenerator_of_ne different update
  have isAt {other : GeneratorId} {block : BlockRef} (different : other ≠ place)
      (stood : (world.changeGenerator place update).IsAt other block) : world.IsAt other block :=
    (World.isAt_changeGenerator_of_ne different).mp stood
  have lift {other : GeneratorId} {block : BlockRef}
      (works : start.WorksAt (allBut free place) other block) : start.WorksAt free other block :=
    (World.worksAt_allBut.mp works).1
  refine
    { orderly := since.orderly.freeAgain present goesOn
      known := fun _ => id
      generators := World.length_changeGenerator world place update ▸ since.generators
      blockCount := since.blockCount
      routines := since.routines
      aside := fun other spare early => ?_
      finished := fun other free early isFinished => ?_
      comes := fun other block works watch => ?_
      stays := fun other block free early stood there => ?_
      alone := fun first other block free early begun stood works => ?_
      ends := fun block watch ended => ?_ }
  · have different : other ≠ place := by
      rintro rfl
      rw [isFree] at spare
      cases spare
    rw [same different]
    exact since.aside other (spares other spare) early
  · have different : other ≠ place := by
      rintro rfl
      rw [unfinished] at isFinished
      cases isFinished
    rw [same different]
    exact since.finished other (Generator.allBut_iff.mpr ⟨free, different⟩) early isFinished
  · rcases World.worksAt_changeGenerator present works with ⟨rfl, goes, stood⟩ | works
    · exact absurd watch (goesOn.goesOn block goes stood).2.1
    · by_cases here : start.IsAt place block
      · exact absurd works (left block other here)
      · exact lift (since.comes other block works ⟨watch, here⟩)
  · by_cases different : other = place
    · subst different
      exact goesOn.stays block (own ▸ stood) there
    · exact since.stays other block (Generator.allBut_iff.mpr ⟨free, different⟩) early
        (isAt different stood) there
  · -- Either of the two may be the one that goes on; if neither is, nothing has changed.
    by_cases different : first = place
    · subst different
      rcases World.worksAt_changeGenerator present works with ⟨rfl, -, -⟩ | works
      · rfl
      · exact absurd works (goesOn.alone block other (own ▸ stood))
    · have isFree := Generator.allBut_iff.mpr ⟨free, different⟩
      rcases World.worksAt_changeGenerator present works with ⟨rfl, goes, there⟩ | works
      · exact absurd (isAt different stood)
          ((goesOn.goesOn block goes there).2.2 first isFree early begun)
      · exact since.alone first other block isFree early begun (isAt different stood) works
  · -- The block at which the generator was may have been ended meanwhile: it was at work there itself.
    by_cases here : start.IsAt place block
    · exact .inr ⟨place, isFree, inside, unfinished, here⟩
    · rcases since.ends block ⟨watch, here⟩ ended with ended | ⟨other, works⟩
      · exact .inl ended
      · exact .inr ⟨other, lift works⟩

/-- **A generator comes up** at a vacant block. -/
theorem join (since : OrderSince free watched spared start world) {block : BlockRef}
    (vacant : IsVacant free watched start world block) {record : Generator}
    (isAt : record.block = blockValue block) (stands : world.Hosts record.function) :
    OrderSince free watched spared start (world.joined record) := by
  have here {other : BlockRef} (there : record.block = blockValue other) : other = block := by
    cases isAt.symm.trans there
    rfl
  have earlier {other : GeneratorId} (inside : other < start.generators.length) :
      other ≠ world.generators.length :=
    Nat.ne_of_lt (Nat.lt_of_lt_of_le inside since.generators)
  have same {other : GeneratorId} (inside : other < start.generators.length) :=
    World.generator_joined_of_ne (earlier inside) record
  have before {other : GeneratorId} {there : BlockRef} (inside : other < start.generators.length)
      (stood : (world.joined record).IsAt other there) : world.IsAt other there :=
    (World.isAt_joined_of_ne (earlier inside)).mp stood
  refine
    { orderly := since.orderly.join vacant isAt stands
      known := since.known
      generators := Nat.le_trans since.generators (by rw [List.length_append]; exact Nat.le_succ _)
      blockCount := since.blockCount
      routines := since.routines
      aside := fun other spare inside => (same inside).trans (since.aside other spare inside)
      finished := fun other free inside isFinished =>
        (same inside).trans (since.finished other free inside isFinished)
      comes := fun other there works watch => ?_
      stays := fun other there free inside stood known =>
        since.stays other there free inside (before inside stood) known
      alone := fun first other there free inside unfinished stood works => ?_
      ends := since.ends }
  · rcases World.worksAt_joined works with ⟨rfl, stood⟩ | works
    · exact absurd (here stood ▸ watch) vacant.unwatched
    · exact since.comes other there works watch
  · rcases World.worksAt_joined works with ⟨rfl, stood'⟩ | works
    · exact absurd (here stood' ▸ before inside stood)
        (vacant.unvisited first free inside unfinished)
    · exact since.alone first other there free inside unfinished (before inside stood) works

end OrderSince

end StructuredIR
