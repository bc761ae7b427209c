import StructuredIR.Proofs.Blocks
import StructuredIR.Proofs.Straight

/-! # Functions under construction

While a function is built, most of what is there stays as it is.

* **`World.endings`** are the terminators of a block. **`World.EndsBy`** says that a block has one
  terminator, and that it is the last instruction.
* **`Construction.Holds`** is the invariant of a function under construction.
* **`Construction.Progress`** relates worlds: of the generators and blocks that were there, only some
  have changed, and blocks have only become longer. Slots may have come up in front of the entry.
* **`Construction.Advances`** says that no generator but one has changed, and no block that was there
  but the one at which that generator was. The generator has stayed there or is at a new block.
* **`Construction.Proceeds`** says besides that the generator is not left open at a block that has
  ended, and that no block has been taken out of its order. -/

namespace StructuredIR

open Build (Leads bind_eq_ok get_eq_ok map_eq_ok modify_eq_ok pure_eq_ok)

/-! ## Terminators -/

/-- The terminators of a row, in order. -/
def terminators (row : List Instruction) : List Operation :=
  (row.map Instruction.operation).filter Operation.isTerminator

@[simp]
theorem terminators_append (first second : List Instruction) :
    terminators (first ++ second) = terminators first ++ terminators second := by
  rw [terminators, List.map_append, List.filter_append, terminators, terminators]

/-- A straight row has no terminators. -/
theorem IsStraight.terminators_eq {row : List Instruction} (straight : IsStraight row) :
    terminators row = [] := by
  refine List.filter_eq_nil_iff.mpr fun operation member => ?_
  obtain ⟨instruction, known, rfl⟩ := List.mem_map.mp member
  rw [straight instruction known]
  exact Bool.false_ne_true

namespace World

/-- A block that is there. -/
def Has (world : World) (block : BlockRef) : Prop :=
  block.place < world.blockCount block.routine

/-- The terminators of a block, in order. -/
def endings (world : World) (block : BlockRef) : List Operation :=
  terminators (world.row block)

/-- **A block ends by an operation** if that is its last one, and no other one ends a block. -/
def EndsBy (world : World) (block : BlockRef) (operation : Operation) : Prop :=
  ∃ front last, world.row block = front ++ [last] ∧ IsStraight front ∧ last.operation = operation

/-- **A generator may go on** where it is: it is finished, or its block has not ended. -/
def MayGoOn (world : World) (place : GeneratorId) : Prop :=
  ∀ block, (world.generator place).isFinished = false →
    (world.generator place).block = .operand (.block block) → world.endings block = []

/-- A block that is not ended is straight. -/
theorem isStraight_of_isTerminated {world : World} {block : BlockRef}
    (free : world.isTerminated block = false) : IsStraight (world.row block) := by
  intro instruction member
  rw [isTerminated_eq, List.any_eq_false] at free
  exact Bool.eq_false_iff.mpr (free instruction member)

/-- A block that is not there has no terminators. -/
theorem endings_of_not_has {world : World} {block : BlockRef} (missing : ¬ world.Has block) :
    world.endings block = [] := by
  rw [endings, world.row_of_blockCount_le (Nat.le_of_not_lt missing)]
  rfl

end World

/-- Straight-line operations end no block. -/
theorem Emits.endings_eq {place : GeneratorId} {before after : World}
    (emits : Emits place before after) (block : BlockRef) :
    after.endings block = before.endings block := by
  obtain ⟨added, straight, row, -⟩ := emits.row block
  rw [World.endings, row, terminators_append, straight.terminators_eq, List.append_nil,
    World.endings]

/-- **What is left alone**: whatever has come up, of what was there nothing has changed. -/
structure Spares (before after : World) : Prop where
  /-- The generators are the same. -/
  generators : before.generators <+: after.generators
  /-- What is recorded of functions is the same. -/
  function? (reference : FunctionRef) : (before.function? reference).isSome →
    after.function? reference = before.function? reference
  /-- The routines are there. -/
  isSome (symbol : SymbolRef) : (before.routine? symbol).isSome → (after.routine? symbol).isSome
  /-- Their blocks are the same. -/
  blockCount (symbol : SymbolRef) : (before.routine? symbol).isSome →
    after.blockCount symbol = before.blockCount symbol
  /-- The blocks are in the same order. -/
  order (symbol : SymbolRef) : (before.routine? symbol).isSome →
    after.order symbol = before.order symbol
  /-- The instructions are the same. -/
  row (block : BlockRef) : before.Has block → after.row block = before.row block

/-- Where no code differs everything is left alone. -/
theorem SameCode.spares {before after : World} (same : SameCode before after) :
    Spares before after where
  generators := same.generators ▸ List.prefix_rfl
  function? reference _ := same.function? reference
  isSome _ := same.toSameFrame.isSome
  blockCount symbol _ := same.blockCount symbol
  order symbol _ := same.order symbol
  row block _ := same.row block

/-- The world in which one more generator has come up. -/
abbrev World.joined (world : World) (generator : Generator) : World :=
  { world with generators := world.generators ++ [generator] }

/-- A new generator leaves everything alone. -/
theorem Spares.of_joined (world : World) (generator : Generator) :
    Spares world (world.joined generator) where
  generators := List.prefix_append _ _
  function? _ _ := rfl
  isSome _ := id
  blockCount _ _ := rfl
  order _ _ := rfl
  row _ _ := rfl

/-- A generator that is left alone. -/
theorem Spares.generator {before after : World} (spares : Spares before after) {place : GeneratorId}
    (inside : place < before.generators.length) :
    after.generator place = before.generator place := by
  obtain ⟨added, same⟩ := spares.generators
  rw [World.generator, World.generator, ← same, List.getElem?_append_left inside]

/-! ## The function -/

/-- A function that is under construction. -/
structure Construction where
  /-- The function. -/
  reference : FunctionRef
  /-- The routine that it stands for. -/
  symbol : SymbolRef
  /-- The block at which it begins, if it is defined. -/
  entry? : Option BlockRef

namespace Construction

variable (site : Construction)

/-- **The invariant of a function under construction.** -/
structure Holds (world : World) : Prop where
  /-- The function is there. -/
  isThere : (world.function? site.reference).isSome
  /-- It stands for its routine. -/
  stands : world.functionSymbol site.reference = site.symbol
  /-- It begins at its entry. -/
  entry : (world.function site.reference).entry = site.entry?
  /-- The routine is there. -/
  known : (world.routine? site.symbol).isSome
  /-- So is the entry. -/
  entryInside (entry : BlockRef) : site.entry? = some entry → world.Has entry
  /-- No block is in order twice. -/
  nodup : (world.order site.symbol).Nodup
  /-- Only blocks that are there are in order. -/
  ordered (place : Nat) : place ∈ world.order site.symbol → place < world.blockCount site.symbol

/-- **What has come of some worlds**: of the generators and blocks that were there, only those of `mine`
and `grows` have changed. -/
structure Progress (mine : GeneratorId → Prop) (grows : BlockRef → Prop) (before after : World) :
    Prop where
  /-- The invariant holds. -/
  holds : site.Holds after
  /-- Generators stay there. -/
  generators : before.generators.length ≤ after.generators.length
  /-- Generators that are not meant are the same. -/
  generator (place : GeneratorId) : place < before.generators.length → ¬ mine place →
    after.generator place = before.generator place
  /-- Blocks stay there. -/
  blockCount (symbol : SymbolRef) : before.blockCount symbol ≤ after.blockCount symbol
  /-- Instructions are added at the end of blocks that are meant, and straight ones in front of the
  entry. -/
  row (block : BlockRef) : before.Has block → ∃ front added,
    after.row block = front ++ before.row block ++ added ∧ IsStraight front ∧
      (site.entry? ≠ some block → front = []) ∧ (¬ grows block → added = [])

/-- A block of the routine that is not there yet. -/
structure IsNew (world : World) (block : BlockRef) : Prop where
  /-- It is a block of the routine. -/
  routine : block.routine = site.symbol
  /-- It is not there. -/
  beyond : world.blockCount site.symbol ≤ block.place

/-- **A generator of the function** that is there, at a block that is there if it is at a block. -/
structure Hosts (world : World) (place : GeneratorId) : Prop extends site.Holds world where
  /-- The generator is there. -/
  inside : place < world.generators.length
  /-- It is for the function. -/
  function : (world.generator place).function = site.reference
  /-- It is at a block that is there. -/
  standing (block : BlockRef) : (world.generator place).block = .operand (.block block) →
    world.Has block

/-- **A generator has been at work**: it is at the block at which it was, or at a new one, and no other
generator or block has changed. -/
structure Advances (place : GeneratorId) (before after : World) : Prop where
  /-- Only the generator has changed, and the block at which it was. -/
  progress : site.Progress (· = place)
    (fun block => (before.generator place).block = .operand (.block block)) before after
  /-- Only where the generator is and whether it is finished has changed. -/
  record : ∃ block isFinished,
    after.generator place = { before.generator place with block, isFinished }
  /-- The generator is where it was, or at a new block. -/
  moves : (after.generator place).block = (before.generator place).block ∨
    ∃ block, (after.generator place).block = .operand (.block block) ∧
      site.IsNew before block ∧ after.Has block

/-- **A generator has been at work properly**: besides, it may go on if it could before, and all blocks
are in order that were. -/
structure Proceeds (place : GeneratorId) (before after : World) : Prop
    extends site.Advances place before after where
  /-- The generator may go on. -/
  mayGoOn : before.MayGoOn place → after.MayGoOn place
  /-- No block has been taken out of its order. -/
  order : before.order site.symbol ⊆ after.order site.symbol

/-- Nothing is meant. -/
abbrev nothing {Item : Type} (_ : Item) : Prop :=
  False

variable {site} {before middle after : World} {place part : GeneratorId}
  {mine others : GeneratorId → Prop} {grows further : BlockRef → Prop}

/-! ## Composition -/

namespace Progress

/-- Blocks that are there stay there. -/
theorem has (progress : site.Progress mine grows before after) {block : BlockRef}
    (known : before.Has block) : after.Has block :=
  Nat.lt_of_lt_of_le known (progress.blockCount block.routine)

/-- A block is new only if it has been new before. -/
theorem isNew (progress : site.Progress mine grows before after) {block : BlockRef}
    (new : site.IsNew after block) : site.IsNew before block :=
  ⟨new.routine, Nat.le_trans (progress.blockCount site.symbol) new.beyond⟩

/-- More may be meant. -/
theorem weaken (progress : site.Progress mine grows before after)
    (owned : ∀ place, place < before.generators.length → mine place → others place)
    (inside : ∀ block, before.Has block → grows block → further block) :
    site.Progress others further before after where
  holds := progress.holds
  generators := progress.generators
  generator place known free :=
    progress.generator place known fun meant => free (owned place known meant)
  blockCount := progress.blockCount
  row block known := by
    obtain ⟨front, added, same, straight, first, last⟩ := progress.row block known
    exact ⟨front, added, same, straight, first, fun free => last fun meant =>
      free (inside block known meant)⟩

/-- **What comes of one world comes of those before it.** What has come up meanwhile may change. -/
theorem trans (first : site.Progress mine grows before middle)
    (second : site.Progress others further middle after)
    (owned : ∀ place, place < before.generators.length → others place → mine place)
    (inside : ∀ block, before.Has block → further block → grows block) :
    site.Progress mine grows before after where
  holds := second.holds
  generators := Nat.le_trans first.generators second.generators
  generator place known free := by
    rw [second.generator place (Nat.lt_of_lt_of_le known first.generators) fun meant =>
      free (owned place known meant), first.generator place known free]
  blockCount symbol := Nat.le_trans (first.blockCount symbol) (second.blockCount symbol)
  row block known := by
    obtain ⟨front, added, same, straight, front_nil, added_nil⟩ := first.row block known
    obtain ⟨front', added', same', straight', front_nil', added_nil'⟩ :=
      second.row block (first.has known)
    refine ⟨front' ++ front, added ++ added', ?_, straight'.append straight, fun other => ?_,
      fun free => ?_⟩
    · rw [same', same]
      simp only [List.append_assoc]
    · rw [front_nil other, front_nil' other, List.append_nil]
    · rw [added_nil free, added_nil' fun meant => free (inside block known meant), List.append_nil]

/-- Nothing that was there changes further. -/
theorem idly (first : site.Progress mine grows before middle)
    (second : site.Progress nothing nothing middle after) :
    site.Progress mine grows before after :=
  first.trans second (fun _ _ => False.elim) fun _ _ => False.elim

/-- A block that is not meant is the same, unless it is the entry. -/
theorem row_eq (progress : site.Progress mine grows before after) {block : BlockRef}
    (known : before.Has block) (free : ¬ grows block) (other : site.entry? ≠ some block) :
    after.row block = before.row block := by
  obtain ⟨front, added, same, -, front_nil, added_nil⟩ := progress.row block known
  rw [same, front_nil other, added_nil free, List.append_nil, List.nil_append]

/-- A block that is not meant has the same terminators. -/
theorem endings_eq (progress : site.Progress mine grows before after) {block : BlockRef}
    (known : before.Has block) (free : ¬ grows block) : after.endings block = before.endings block := by
  obtain ⟨front, added, same, straight, -, added_nil⟩ := progress.row block known
  rw [World.endings, same, added_nil free, List.append_nil, terminators_append,
    straight.terminators_eq, List.nil_append, World.endings]

/-- Terminators stay there. -/
theorem endings_prefix (progress : site.Progress mine grows before after) (block : BlockRef) :
    before.endings block <+: after.endings block := by
  by_cases known : before.Has block
  · obtain ⟨front, added, same, straight, -, -⟩ := progress.row block known
    rw [World.endings, World.endings, same, terminators_append, terminators_append,
      straight.terminators_eq, List.nil_append]
    exact List.prefix_append _ _
  · rw [World.endings_of_not_has known]
    exact List.nil_prefix

/-- A block that is not meant ends by what it ended by. -/
theorem endsBy (progress : site.Progress mine grows before after) {block : BlockRef}
    {operation : Operation} (ends : before.EndsBy block operation) (known : before.Has block)
    (free : ¬ grows block) : after.EndsBy block operation := by
  obtain ⟨front, last, same, straight, does⟩ := ends
  obtain ⟨slots, added, row, straightSlots, -, added_nil⟩ := progress.row block known
  refine ⟨slots ++ front, last, ?_, straightSlots.append straight, does⟩
  rw [row, same, added_nil free, List.append_nil, List.append_assoc]

end Progress

/-! ## What changes little -/

/-- The invariant holds where functions, blocks and their order are the same. -/
theorem Holds.of_same (holds : site.Holds before)
    (function? : after.function? site.reference = before.function? site.reference)
    (known : (after.routine? site.symbol).isSome)
    (blockCount : ∀ symbol, before.blockCount symbol ≤ after.blockCount symbol)
    (order : after.order site.symbol = before.order site.symbol) : site.Holds after := by
  have function : after.function site.reference = before.function site.reference := by
    rw [World.function_eq, World.function_eq, function?]
  refine ⟨function? ▸ holds.isThere, ?_, function ▸ holds.entry, known, fun entry begins => ?_,
    order ▸ holds.nodup, fun place member => ?_⟩
  · rw [World.functionSymbol, function]
    exact holds.stands
  · exact Nat.lt_of_lt_of_le (holds.entryInside entry begins) (blockCount entry.routine)
  · exact Nat.lt_of_lt_of_le (holds.ordered place (order ▸ member)) (blockCount site.symbol)

/-- Nothing has changed. -/
theorem Holds.refl (holds : site.Holds before) : site.Progress mine grows before before where
  holds := holds
  generators := Nat.le_refl _
  generator _ _ _ := rfl
  blockCount _ := Nat.le_refl _
  row block _ := ⟨[], [], by simp, .nil, fun _ => rfl, fun _ => rfl⟩

/-- What leaves everything alone changes nothing. -/
theorem Holds.spares (holds : site.Holds before) (spares : Spares before after) :
    site.Progress nothing nothing before after := by
  have blockCount (symbol : SymbolRef) : before.blockCount symbol ≤ after.blockCount symbol := by
    rcases known : before.routine? symbol with _ | routine
    · rw [World.blockCount, World.routine, known]
      exact Nat.zero_le _
    · exact Nat.le_of_eq (spares.blockCount symbol (by rw [known]; rfl)).symm
  refine ⟨holds.of_same (spares.function? _ holds.isThere) (spares.isSome _ holds.known) blockCount
    (spares.order _ holds.known), spares.generators.length_le,
    fun place known _ => spares.generator known, blockCount, fun block known => ?_⟩
  exact ⟨[], [], by simp [spares.row block known], .nil, fun _ => rfl, fun _ => rfl⟩

/-- Where no code differs nothing has changed. -/
theorem Holds.sameCode (holds : site.Holds before) (same : SameCode before after) :
    site.Progress nothing nothing before after :=
  holds.spares same.spares

/-- Where nothing but instructions differs, only rows have changed. -/
theorem Holds.sameFrame (holds : site.Holds before) (frame : SameFrame before after)
    (row : ∀ block, before.Has block → ∃ front added,
      after.row block = front ++ before.row block ++ added ∧ IsStraight front ∧
        (site.entry? ≠ some block → front = []) ∧ (¬ grows block → added = [])) :
    site.Progress nothing grows before after where
  holds := holds.of_same (frame.function? _) (frame.isSome holds.known)
    (fun symbol => Nat.le_of_eq (frame.blockCount symbol).symm) (frame.order _)
  generators := Nat.le_of_eq (congrArg List.length frame.generators).symm
  generator place _ _ := frame.generator place
  blockCount symbol := Nat.le_of_eq (frame.blockCount symbol).symm
  row := row

/-- Instructions have been added where a generator is. -/
theorem Holds.emits (holds : site.Holds before) (emits : Emits place before after) :
    site.Progress nothing (fun block => (before.generator place).block = .operand (.block block))
      before after := by
  refine holds.sameFrame emits.toSameFrame fun block _ => ?_
  obtain ⟨added, -, row, here⟩ := emits.row block
  exact ⟨[], added, by rw [row, List.nil_append], .nil, fun _ => rfl, here.resolve_right⟩

/-- An instruction has been added at the end of a block. -/
theorem Holds.changesRow (holds : site.Holds before) {block : BlockRef} {added : List Instruction}
    (changes : ChangesRow block (· ++ added) before after) :
    site.Progress nothing (· = block) before after := by
  refine holds.sameFrame changes.toSameFrame fun other _ => ?_
  by_cases same : other = block ∧ block.place < before.blockCount block.routine
  · refine ⟨[], added, ?_, .nil, fun _ => rfl, fun free => absurd same.1 free⟩
    rw [changes.row, if_pos same, same.1, List.nil_append]
  · refine ⟨[], [], ?_, .nil, fun _ => rfl, fun _ => rfl⟩
    rw [changes.row, if_neg same, List.nil_append, List.append_nil]

/-- An instruction that ends no block has been added in front of the entry. -/
theorem Holds.changesEntry (holds : site.Holds before) {entry : BlockRef} {made : Instruction}
    (begins : site.entry? = some entry) (straight : made.operation.isTerminator = false)
    (changes : ChangesRow entry (made :: ·) before after) :
    site.Progress nothing nothing before after := by
  refine holds.sameFrame changes.toSameFrame fun other _ => ?_
  by_cases same : other = entry ∧ entry.place < before.blockCount entry.routine
  · refine ⟨[made], [], ?_, fun instruction member => ?_, fun free => ?_, fun _ => rfl⟩
    · rw [changes.row, if_pos same, same.1, List.append_nil]
      rfl
    · rw [List.mem_singleton.mp member, straight]
    · exact absurd (same.1 ▸ begins) free
  · refine ⟨[], [], ?_, .nil, fun _ => rfl, fun _ => rfl⟩
    rw [changes.row, if_neg same, List.nil_append, List.append_nil]

/-- A generator has changed. -/
theorem Holds.changeGenerator (holds : site.Holds before) (place : GeneratorId)
    (update : Generator → Generator) :
    site.Progress (· = place) nothing before (before.changeGenerator place update) where
  holds := holds.of_same rfl holds.known (fun _ => Nat.le_refl _) rfl
  generators := Nat.le_of_eq (before.length_changeGenerator place update).symm
  generator other _ free := by
    rw [World.generator_changeGenerator, if_neg fun claimed => free claimed.1]
  blockCount _ := Nat.le_refl _
  row block _ := by
    refine ⟨[], [], ?_, .nil, fun _ => rfl, fun _ => rfl⟩
    rw [List.nil_append, List.append_nil]
    exact World.row_congr rfl

/-- The record of a function has changed, but neither its routine nor where it begins. -/
theorem Holds.changeFunction (holds : site.Holds before) (reference : FunctionRef)
    {update : Function → Function} (symbol : ∀ function, (update function).symbol = function.symbol)
    (entry : ∀ function, (update function).entry = function.entry) :
    site.Progress nothing nothing before (before.changeFunction reference update) := by
  have function? := before.function?_changeFunction reference site.reference update
  have begins : ((before.changeFunction reference update).function site.reference).entry =
      (before.function site.reference).entry := by
    rw [World.function_eq, function?, World.function_eq]
    split
    next same =>
      rw [same]
      cases before.function? reference with
      | none => rfl
      | some function => exact entry function
    next => rfl
  refine ⟨⟨?_, ?_, begins.trans holds.entry, ?_, fun entry begins => ?_, ?_, fun place member => ?_⟩,
    Nat.le_refl _, fun _ _ _ => rfl, fun symbol => ?_, fun block _ => ?_⟩
  · rw [function?]
    split
    next same => rw [← same, Option.isSome_map]; exact holds.isThere
    next => exact holds.isThere
  · rw [World.functionSymbol_changeFunction _ _ _ symbol]
    exact holds.stands
  · rw [World.routine?_changeFunction]
    exact holds.known
  · rw [World.Has, World.blockCount_changeFunction]
    exact holds.entryInside entry begins
  · rw [World.order_changeFunction]
    exact holds.nodup
  · rw [World.order_changeFunction] at member
    rw [World.blockCount_changeFunction]
    exact holds.ordered place member
  · rw [World.blockCount_changeFunction]
  · exact ⟨[], [], by simp, .nil, fun _ => rfl, fun _ => rfl⟩

/-! ## Blocks -/

/-- A new block is not there. -/
theorem IsNew.not_has {block : BlockRef} (new : site.IsNew before block) : ¬ before.Has block := by
  rw [World.Has, new.routine]
  exact Nat.not_lt.mpr new.beyond

/-- The next block of the routine. -/
def next (site : Construction) (world : World) : BlockRef :=
  ⟨site.symbol, world.blockCount site.symbol⟩

/-- The next block is new. -/
theorem isNew_next (world : World) : site.IsNew world (site.next world) :=
  ⟨rfl, Nat.le_refl _⟩

/-- A new block is not the entry. -/
theorem Holds.entry_ne_of_isNew (holds : site.Holds before) {block : BlockRef}
    (new : site.IsNew before block) : site.entry? ≠ some block :=
  fun begins => new.not_has (holds.entryInside block begins)

/-- One more block. -/
theorem Holds.addsBlock (holds : site.Holds before) (adds : AddsBlock site.symbol before after) :
    site.Progress nothing nothing before after ∧ after.Has (site.next before) := by
  have function : after.function site.reference = before.function site.reference := by
    rw [World.function_eq, World.function_eq, adds.function?]
  have blockCount (symbol : SymbolRef) : before.blockCount symbol ≤ after.blockCount symbol := by
    rw [adds.blockCount]
    split
    next same => exact same ▸ Nat.le_succ _
    next => exact Nat.le_refl _
  have order := adds.order site.symbol
  have count := adds.blockCount site.symbol
  rw [if_pos rfl] at order count
  refine ⟨⟨⟨adds.function? site.reference ▸ holds.isThere, ?_, function ▸ holds.entry, ?_,
    fun entry begins => ?_, ?_, fun place member => ?_⟩,
    Nat.le_of_eq (congrArg List.length adds.generators).symm, fun place _ _ => ?_, blockCount,
    fun block _ => ?_⟩, ?_⟩
  · rw [World.functionSymbol, function]
    exact holds.stands
  · obtain ⟨routine, found⟩ := Option.isSome_iff_exists.mp holds.known
    rw [← Option.isSome_map (f := Routine.result), adds.result _ routine.result (by rw [found]; rfl)]
    rfl
  · exact Nat.lt_of_lt_of_le (holds.entryInside entry begins) (blockCount _)
  · rw [order]
    refine List.nodup_append.mpr ⟨holds.nodup, List.nodup_singleton _, fun place member last same => ?_⟩
    rw [List.mem_singleton.mp same]
    exact Nat.ne_of_lt (holds.ordered place member)
  · rw [order] at member
    rw [count]
    rcases List.mem_append.mp member with old | new
    · exact Nat.lt_succ_of_lt (holds.ordered place old)
    · rw [List.mem_singleton.mp new]
      exact Nat.lt_succ_self _
  · rw [World.generator, World.generator, adds.generators]
  · exact ⟨[], [], by simp [adds.row], .nil, fun _ => rfl, fun _ => rfl⟩
  · show before.blockCount site.symbol < after.blockCount site.symbol
    rw [count]
    exact Nat.lt_succ_self _

/-- A block that is added by name is the next one of the routine. -/
theorem Holds.appendNamed_ok (holds : site.Holds before) {base : String} {block : BlockRef}
    (run : Function.appendNamed site.reference base before = .ok block after) :
    block = site.next before ∧ AddsBlock site.symbol before after := by
  obtain ⟨final, appending, adds⟩ :=
    Function.appendNamed_run site.reference base before (holds.stands ▸ holds.known)
  rw [appending, holds.stands] at run
  cases run
  exact ⟨rfl, holds.stands ▸ adds⟩

/-- A block that has been taken out of its order and put in again behind another one. -/
theorem Holds.reorders (holds : site.Holds before) {order : List Nat}
    (reorders : Reorders site.symbol order before after) (perm : order.Perm (before.order site.symbol)) :
    site.Progress nothing nothing before after := by
  have function : after.function site.reference = before.function site.reference := by
    rw [World.function_eq, World.function_eq, reorders.function?]
  have order_eq := reorders.order site.symbol
  rw [if_pos rfl] at order_eq
  refine ⟨⟨reorders.function? site.reference ▸ holds.isThere, ?_, function ▸ holds.entry, ?_,
    fun entry begins => ?_, ?_, fun place member => ?_⟩,
    Nat.le_of_eq (congrArg List.length reorders.generators).symm, fun place _ _ => ?_,
    fun symbol => Nat.le_of_eq (reorders.blockCount symbol).symm, fun block _ => ?_⟩
  · rw [World.functionSymbol, function]
    exact holds.stands
  · obtain ⟨routine, found⟩ := Option.isSome_iff_exists.mp holds.known
    rw [← Option.isSome_map (f := Routine.result),
      reorders.result _ routine.result (by rw [found]; rfl)]
    rfl
  · rw [World.Has, reorders.blockCount]
    exact holds.entryInside entry begins
  · rw [order_eq]
    exact perm.nodup_iff.mpr holds.nodup
  · rw [order_eq] at member
    rw [reorders.blockCount]
    exact holds.ordered place (perm.mem_iff.mp member)
  · rw [World.generator, World.generator, reorders.generators]
  · exact ⟨[], [], by simp [reorders.row], .nil, fun _ => rfl, fun _ => rfl⟩

/-- Moving a block changes the order only. -/
theorem Holds.moveAfter (holds : site.Holds before) {moved anchor : Value}
    (run : Function.moveAfter site.reference moved anchor before = .ok () after) :
    site.Progress nothing nothing before after ∧ after.generators = before.generators ∧
      ∀ block, after.row block = before.row block := by
  obtain ⟨order, reorders, moves⟩ :=
    Function.moveAfter_reorders site.reference moved anchor holds.stands holds.known
  rw [Build.after_of_ok run] at reorders
  refine ⟨holds.reorders reorders ?_, reorders.generators, reorders.row⟩
  rcases moves with rfl | ⟨place, -, member, ⟨target, inside, rfl⟩ | ⟨-, fault, final, failed⟩⟩
  · exact List.Perm.refl _
  · exact (Routine.insertAfter_perm place inside).trans (List.perm_cons_erase member).symm
  · rw [run] at failed
    cases failed

/-- Blocks are told from each other by where they are. -/
theorem isSame_blocks (left right : BlockRef) (world : World) :
    Function.isSame (.operand (.block left)) (.operand (.block right)) world =
      .ok (decide (left = right)) world := by
  have key (block : BlockRef) : Build.operandKey (.block block) world =
      .ok (.thing .block [block.routine.owner, block.routine.place, block.place]) world := rfl
  simp only [Function.isSame, Operand.isConstant, Bool.or_self, Bool.false_eq_true, if_false,
    Bind.bind, EStateM.bind, key, pure, EStateM.pure]
  congr 2
  obtain ⟨⟨owner, place⟩, index⟩ := left
  obtain ⟨⟨owner', place'⟩, index'⟩ := right
  simp [and_assoc]

/-- A place is put right behind another one. -/
theorem insertAfter_split (moved : Nat) {anchor : Nat} {places : List Nat}
    (inside : anchor ∈ places) :
    ∃ left right, places = left ++ anchor :: right ∧
      Routine.insertAfter moved anchor places = left ++ anchor :: moved :: right := by
  induction places with
  | nil => cases inside
  | cons place places ih =>
      unfold Routine.insertAfter
      by_cases same : place = anchor
      · exact ⟨[], places, by rw [same]; rfl, by rw [if_pos same, same]; rfl⟩
      · obtain ⟨left, right, split, inserted⟩ :=
          ih ((List.mem_cons.mp inside).resolve_left fun equal => same equal.symm)
        exact ⟨place :: left, right, by rw [split]; rfl, by rw [if_neg same, inserted]; rfl⟩

/-- **A place has been put right behind another one**, and all others are in the order in which they
were. -/
def MovedBehind (moved anchor : Nat) (before after : List Nat) : Prop :=
  if moved = anchor then after = before
  else ∃ left right, before.erase moved = left ++ anchor :: right ∧
    after = left ++ anchor :: moved :: right

/-- **A block is moved right behind its anchor**, unless it is that block. -/
theorem Holds.order_of_moveAfter (holds : site.Holds before) {moved anchor : BlockRef}
    (run : Function.moveAfter site.reference (.operand (.block moved)) (.operand (.block anchor))
      before = .ok () after) :
    MovedBehind moved.place anchor.place (before.order site.symbol) (after.order site.symbol) := by
  obtain ⟨same, _, testing, run⟩ := bind_eq_ok.mp run
  rw [isSame_blocks] at testing
  cases testing
  by_cases equal : moved = anchor
  · rw [MovedBehind, if_pos (congrArg BlockRef.place equal)]
    rw [decide_eq_true equal] at run
    cases run
    rfl
  · rw [decide_eq_false equal, if_neg Bool.false_ne_true] at run
    obtain ⟨seen, _, looked, run⟩ := bind_eq_ok.mp run
    obtain ⟨rfl, rfl⟩ := get_eq_ok.mp looked
    obtain ⟨seen, _, looked, run⟩ := bind_eq_ok.mp run
    obtain ⟨rfl, rfl⟩ := get_eq_ok.mp looked
    rw [holds.stands] at run
    obtain ⟨routine, found⟩ := Option.isSome_iff_exists.mp holds.known
    have here : before.routine site.symbol = routine := by
      rw [World.routine, found]
      rfl
    have order : before.order site.symbol = routine.order := congrArg Routine.order here
    rw [order]
    rw [here] at run
    cases known : Function.placeInOrder? routine site.symbol (.operand (.block moved)) with
    | none =>
        rw [known] at run
        cases run
    | some place =>
        rw [known] at run
        obtain ⟨_, taken, taking, moving⟩ := bind_eq_ok.mp run
        obtain rfl := modify_eq_ok.mp taking
        cases anchored : Function.placeInOrder? { routine with order := routine.order.erase place }
            site.symbol (.operand (.block anchor)) with
        | none =>
            rw [anchored] at moving
            obtain ⟨text, _, -, failing⟩ := bind_eq_ok.mp moving
            cases failing
        | some target =>
            rw [anchored] at moving
            obtain rfl := modify_eq_ok.mp moving
            obtain ⟨moved_eq, -⟩ := Function.placeInOrder?_eq_some known
            obtain ⟨anchor_eq, inside⟩ := Function.placeInOrder?_eq_some anchored
            obtain ⟨left, right, split, inserted⟩ := insertAfter_split place inside
            cases moved_eq
            cases anchor_eq
            rw [MovedBehind, if_neg fun same => equal (congrArg (BlockRef.mk site.symbol) same)]
            refine ⟨left, right, split, ?_⟩
            rw [World.order, World.routine, World.routine?_changeRoutine, if_pos rfl,
              World.routine?_changeRoutine, if_pos rfl, found]
            exact inserted

/-- **What is moved behind the last place is moved to the end.** -/
theorem MovedBehind.order_eq {moved last : Nat} {before after : List Nat}
    (moves : MovedBehind moved last before after) (nodup : before.Nodup)
    (ends : before.getLast? = some last) : after = before.erase moved ++ [moved] := by
  obtain ⟨places, rfl⟩ := List.getLast?_eq_some_iff.mp ends
  have apart : last ∉ places := (List.nodup_append_comm.mp nodup).notMem
  by_cases same : moved = last
  · rw [MovedBehind, if_pos same] at moves
    rw [moves, same, List.erase_append_right _ apart, List.erase_cons_head, List.append_nil]
  · rw [MovedBehind, if_neg same] at moves
    obtain ⟨left, right, split, rfl⟩ := moves
    -- Nothing comes behind the last place, for it is there only once.
    have nothing : right = [] := by
      have once : last ∉ right :=
        (List.nodup_cons.mp (List.nodup_append.mp (split ▸ nodup.erase moved)).2.1).1
      have kept : (places ++ [last]).erase moved = places.erase moved ++ [last] := by
        rw [List.erase_append]
        split
        next => rfl
        next free => rw [List.erase_of_not_mem free, List.erase_of_not_mem (by simpa using same)]
      rcases List.eq_nil_or_concat right with rfl | ⟨front, final, rfl⟩
      · rfl
      · rw [kept, List.concat_eq_append, ← List.cons_append, ← List.append_assoc] at split
        have again := (List.append_inj_right' split rfl)
        cases again
        exact absurd (by simp) once
    subst nothing
    rw [split, List.append_assoc]
    rfl

/-- A slot is put in front of the entry. -/
theorem Holds.createSlot (holds : site.Holds before) {result : IRType} {slot : Operand}
    (run : Function.createSlot site.reference result before = .ok slot after) :
    site.Progress nothing nothing before after ∧ after.generators = before.generators ∧
      after.order site.symbol = before.order site.symbol := by
  obtain ⟨seen, _, looked, run⟩ := bind_eq_ok.mp run
  obtain ⟨rfl, rfl⟩ := get_eq_ok.mp looked
  cases begins : (before.function site.reference).entry with
  | none =>
      rw [begins] at run
      cases run
  | some entry =>
      rw [begins] at run
      obtain ⟨value, emitted, emitting, run⟩ := bind_eq_ok.mp run
      obtain ⟨_, _, knowing, run⟩ := bind_eq_ok.mp run
      obtain rfl := modify_eq_ok.mp knowing
      obtain ⟨rfl, rfl⟩ := pure_eq_ok.mp run
      obtain ⟨made, does, -, -, changes⟩ := Build.emitFirst_ok emitting
      have first := holds.changesEntry (holds.entry.symm.trans begins) (does ▸ rfl) changes
      refine ⟨first.idly (first.holds.changeFunction site.reference (fun _ => rfl) fun _ => rfl),
        changes.generators, ?_⟩
      rw [World.order_changeFunction, changes.order]

/-- Instructions that are added to a block that has come up change nothing that was there. -/
theorem Progress.emitAnew (progress : site.Progress mine grows before middle) {block : BlockRef}
    {operation : Operation} {value : Operand} (new : ¬ before.Has block)
    (run : Build.emit block operation middle = .ok value after) :
    site.Progress mine grows before after ∧ after.generators = middle.generators ∧
      after.order site.symbol = middle.order site.symbol := by
  obtain ⟨made, -, -, -, -, changes⟩ := Build.emit_ok run
  exact ⟨progress.trans (progress.holds.changesRow changes) (fun _ _ => False.elim)
    fun block known same => absurd (same ▸ known) new, changes.generators, changes.order site.symbol⟩

/-- **Setting up the return block** may put a slot in front of the entry, and adds a block. -/
theorem Holds.setUpReturn (holds : site.Holds before) {exit : BlockRef}
    (run : Function.setUpReturn site.reference before = .ok exit after) :
    site.Progress nothing nothing before after ∧ after.generators = before.generators ∧
      before.order site.symbol ⊆ after.order site.symbol := by
  obtain ⟨seen, _, looked, run⟩ := bind_eq_ok.mp run
  obtain ⟨rfl, rfl⟩ := get_eq_ok.mp looked
  cases known : (before.function site.reference).exit with
  | some exit =>
      rw [known] at run
      obtain ⟨rfl, rfl⟩ := pure_eq_ok.mp run
      exact ⟨holds.refl, rfl, List.Subset.refl _⟩
  | none =>
      rw [known] at run
      obtain ⟨seen, _, looked, run⟩ := bind_eq_ok.mp run
      obtain ⟨rfl, rfl⟩ := get_eq_ok.mp looked
      dsimp only at run
      -- The slot comes first, if there has to be one.
      obtain ⟨slot?, slotted, ⟨slots, generators, ordered⟩, run⟩ : ∃ slot? slotted,
          (site.Progress nothing nothing before slotted ∧ slotted.generators = before.generators ∧
            slotted.order site.symbol = before.order site.symbol) ∧
          (do
            let exit ← Function.appendNamed site.reference "return"
            modify (·.changeFunction site.reference fun function => { function with exit := some exit })
            match slot? with
            | none => let _ ← Build.emit exit .retVoid
            | some slot =>
                let value ← Build.emit exit (.load slot)
                let _ ← Build.emit exit (.ret value)
            return exit : Build BlockRef) slotted = .ok exit after := by
        split at run
        · obtain ⟨slot?, slotted, nothing, run⟩ := bind_eq_ok.mp run
          obtain ⟨rfl, rfl⟩ := pure_eq_ok.mp nothing
          exact ⟨none, _, ⟨holds.refl, rfl, rfl⟩, run⟩
        · obtain ⟨slot?, slotted, mapping, run⟩ := bind_eq_ok.mp run
          obtain ⟨slot, allocating, rfl⟩ := map_eq_ok.mp mapping
          exact ⟨some slot, slotted, holds.createSlot allocating, run⟩
      obtain ⟨block, added, appending, run⟩ := bind_eq_ok.mp run
      obtain ⟨_, entered, knowing, run⟩ := bind_eq_ok.mp run
      obtain rfl := modify_eq_ok.mp knowing
      obtain ⟨rfl, adds⟩ := slots.holds.appendNamed_ok appending
      have new : ¬ before.Has (site.next slotted) := (slots.isNew (isNew_next slotted)).not_has
      have adding := (slots.holds.addsBlock adds).1
      have knows : site.Progress nothing nothing added (added.changeFunction site.reference
          fun function => { function with exit := some (site.next slotted) }) :=
        adding.holds.changeFunction site.reference (fun _ => rfl) fun _ => rfl
      have entered := (slots.idly adding).idly knows
      have same := adds.generators.trans generators
      have order : before.order site.symbol ⊆ (added.changeFunction site.reference fun function =>
          { function with exit := some (site.next slotted) }).order site.symbol := by
        rw [World.order_changeFunction, adds.order, if_pos rfl, ordered]
        exact List.subset_append_left _ _
      cases slot? with
      | none =>
          obtain ⟨_, emitted, returning, run⟩ := bind_eq_ok.mp run
          obtain ⟨rfl, rfl⟩ := pure_eq_ok.mp run
          obtain ⟨progress, kept, ordered⟩ := entered.emitAnew new returning
          exact ⟨progress, kept.trans same, ordered ▸ order⟩
      | some slot =>
          obtain ⟨value, loaded, loading, run⟩ := bind_eq_ok.mp run
          obtain ⟨_, emitted, returning, run⟩ := bind_eq_ok.mp run
          obtain ⟨rfl, rfl⟩ := pure_eq_ok.mp run
          obtain ⟨progress, kept, ordered⟩ := entered.emitAnew new loading
          obtain ⟨progress, keptToo, orderedToo⟩ := progress.emitAnew new returning
          exact ⟨progress, keptToo.trans (kept.trans same), orderedToo ▸ ordered ▸ order⟩

/-! ## Generators at work -/

/-- A generator that has been left alone is there. -/
theorem Hosts.later (hosts : site.Hosts before place)
    (progress : site.Progress mine grows before after) (free : ¬ mine place) :
    site.Hosts after place := by
  have same := progress.generator place hosts.inside free
  refine ⟨progress.holds, Nat.lt_of_lt_of_le hosts.inside progress.generators,
    same ▸ hosts.function, fun block here => ?_⟩
  exact progress.has (hosts.standing block (same ▸ here))

/-- A generator that has been at work is there. -/
theorem Advances.hosts (advances : site.Advances place before after)
    (hosts : site.Hosts before place) : site.Hosts after place := by
  obtain ⟨block, isFinished, record⟩ := advances.record
  refine ⟨advances.progress.holds, Nat.lt_of_lt_of_le hosts.inside advances.progress.generators, ?_,
    fun block here => ?_⟩
  · rw [record]
    exact hosts.function
  · rcases advances.moves with same | ⟨new, moved, -, known⟩
    · exact advances.progress.has (hosts.standing block (same ▸ here))
    · rw [moved] at here
      cases here
      exact known

/-- A generator at work may add to the block at which it is. -/
theorem Hosts.advances (hosts : site.Hosts before place)
    (progress : site.Progress nothing
      (fun block => (before.generator place).block = .operand (.block block)) before after) :
    site.Advances place before after := by
  have same : after.generator place = before.generator place :=
    progress.generator place hosts.inside id
  refine ⟨progress.weaken (fun _ _ => False.elim) fun _ _ => id, ⟨_, _, same⟩, .inl ?_⟩
  rw [same]

/-- What changes nothing that was there. -/
theorem Hosts.advances_idly (hosts : site.Hosts before place)
    (progress : site.Progress nothing nothing before after) : site.Advances place before after :=
  hosts.advances (progress.weaken (fun _ _ => id) fun _ _ => False.elim)

/-- A generator that does nothing. -/
theorem Hosts.refl (hosts : site.Hosts before place) : site.Advances place before before :=
  hosts.advances_idly hosts.toHolds.refl

/-- **A generator goes on working.** -/
theorem Advances.trans (first : site.Advances place before middle)
    (second : site.Advances place middle after) : site.Advances place before after := by
  obtain ⟨block, isFinished, record⟩ := first.record
  obtain ⟨block', isFinished', record'⟩ := second.record
  refine ⟨first.progress.trans second.progress (fun _ _ => id) fun block known here => ?_,
    ⟨block', isFinished', by rw [record', record]⟩, ?_⟩
  · rcases first.moves with same | ⟨new, moved, fresh, -⟩
    · exact same ▸ here
    · rw [moved] at here
      cases here
      exact absurd known fresh.not_has
  · rcases second.moves with same | ⟨new, moved, fresh, known⟩
    · rw [same]
      rcases first.moves with same | ⟨new, moved, fresh, known⟩
      · exact .inl same
      · exact .inr ⟨new, moved, fresh, second.progress.has known⟩
    · exact .inr ⟨new, moved, first.progress.isNew fresh, known⟩

/-- A generator is finished. -/
theorem Hosts.finish (hosts : site.Hosts before place) :
    site.Advances place before
      (before.changeGenerator place fun generator => { generator with isFinished := true }) := by
  have same := before.generator_changeGenerator place place fun generator =>
    { generator with isFinished := true }
  rw [if_pos ⟨rfl, hosts.inside⟩] at same
  refine ⟨(hosts.changeGenerator place _).weaken (fun _ _ => id) fun _ _ => False.elim,
    ⟨_, _, same⟩, .inl ?_⟩
  rw [same]

/-! ## Generators at work properly -/

/-- A generator goes on working properly. -/
theorem Proceeds.trans (first : site.Proceeds place before middle)
    (second : site.Proceeds place middle after) : site.Proceeds place before after where
  toAdvances := first.toAdvances.trans second.toAdvances
  mayGoOn free := second.mayGoOn (first.mayGoOn free)
  order := List.Subset.trans first.order second.order

/-- A generator that stays where it is may go on if its block has not been ended. -/
theorem Hosts.proceeds (hosts : site.Hosts before place)
    (progress : site.Progress nothing
      (fun block => (before.generator place).block = .operand (.block block)) before after)
    (endings : ∀ block, (before.generator place).block = .operand (.block block) →
      after.endings block = before.endings block)
    (order : before.order site.symbol ⊆ after.order site.symbol) :
    site.Proceeds place before after where
  toAdvances := hosts.advances progress
  mayGoOn free block unfinished here := by
    have same := progress.generator place hosts.inside id
    rw [same] at unfinished here
    rw [endings block here]
    exact free block unfinished here
  order := order

/-- What changes nothing that was there leaves the generator where it may go on. -/
theorem Hosts.proceeds_idly (hosts : site.Hosts before place)
    (progress : site.Progress nothing nothing before after)
    (order : before.order site.symbol ⊆ after.order site.symbol) :
    site.Proceeds place before after :=
  hosts.proceeds (progress.weaken (fun _ _ => id) fun _ _ => False.elim)
    (fun block here => progress.endings_eq (hosts.standing block here) id) order

/-- A generator that does nothing. -/
theorem Hosts.proceeds_refl (hosts : site.Hosts before place) : site.Proceeds place before before :=
  hosts.proceeds_idly hosts.toHolds.refl (List.Subset.refl _)

/-- A generator that is finished in the end may go on in any case. -/
theorem Advances.proceeds_of_isFinished (advances : site.Advances place before after)
    (isFinished : (after.generator place).isFinished = true)
    (order : before.order site.symbol ⊆ after.order site.symbol) :
    site.Proceeds place before after where
  toAdvances := advances
  mayGoOn _ block unfinished := by
    rw [isFinished] at unfinished
    cases unfinished
  order := order

/-- A generator that is at a block that has not ended in the end may go on in any case. -/
theorem Advances.proceeds_of_block (advances : site.Advances place before after) {block : BlockRef}
    (here : (after.generator place).block = .operand (.block block)) (free : after.endings block = [])
    (order : before.order site.symbol ⊆ after.order site.symbol) :
    site.Proceeds place before after where
  toAdvances := advances
  mayGoOn _ other _ there := by
    rw [here] at there
    cases there
    exact free
  order := order

/-- A generator that is finished. -/
theorem Hosts.proceeds_finish (hosts : site.Hosts before place) :
    site.Proceeds place before
      (before.changeGenerator place fun generator => { generator with isFinished := true }) := by
  refine hosts.finish.proceeds_of_isFinished ?_ (List.Subset.refl _)
  rw [World.generator_changeGenerator, if_pos ⟨rfl, hosts.inside⟩]

end Construction

end StructuredIR
