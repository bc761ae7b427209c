import StructuredIR.Proofs.Blocks
import StructuredIR.Proofs.Bodies
import StructuredIR.Proofs.Clients
import StructuredIR.Proofs.Straight

/-! # Shared returns

However many shared returns a function has, they all lead to one block, which returns what one
slot holds.

* **`ReturnSite`** names a function with its routine, its entry and the block that will be its
  return block. **`ReturnSite.Holds`** is the invariant of worlds: before the return block comes up
  there is no slot; afterwards the slot is the first thing in the entry, and the return block
  contains what it was set up with, because no generator is ever positioned there.
* **`ReturnSite.Later`** is the course of worlds on which the invariant holds and a return block
  and a slot that are there stay what they are. -/

namespace StructuredIR

open Build (Leads Follows bind_eq_ok bind_eq_error get_eq_ok modify_eq_ok pure_eq_ok lift_eq_ok)

namespace FunctionBody

variable (body : FunctionBody)

/-- **The slot** of a function that yields something is the first thing in the entry, in front of
what was there at the outset; a function that yields nothing has no slot. -/
def HasSlot (outset : List Instruction) (world : World) : Prop :=
  if body.result = .void then body.slot? world = none ∧ outset <+: world.row body.entry
  else ∃ (slot : Instruction) (rest : List Instruction),
    slot.operation = .alloca body.result none ∧
      body.slot? world = some (slot.result body.symbol) ∧
        world.row body.entry = slot :: rest ∧ outset <+: rest

/-- **A return block** contains nothing but a return of what the slot holds, or of nothing. -/
def Returns (exit : BlockRef) (world : World) : Prop :=
  if body.result = .void then
    ∃ back : Instruction, back.operation = .retVoid ∧ world.row exit = [back]
  else ∃ (slot : Operand) (load back : Instruction),
    body.slot? world = some slot ∧ load.operation = .load slot ∧
      back.operation = .ret (load.result body.symbol) ∧ world.row exit = [load, back]

section

variable {body} {world : World} {exit : BlockRef} {known? slot? : Option Operand}
  {outset row front content : List Instruction}

/-- There is a slot, if there has to be one, once a return block is set up. -/
theorem hasSlot_of_returnsBy (returns : ReturnsBy body.symbol known? body.result front content slot?)
    (missing : known? = none) (same : body.slot? world = slot?)
    (entry : world.row body.entry = front ++ row) (begins : outset <+: row) :
    body.HasSlot outset world := by
  unfold HasSlot
  rw [same, entry]
  generalize body.result = result at returns
  cases returns with
  | nothing back does =>
      rw [if_pos rfl]
      exact ⟨missing, begins⟩
  | slot yields slot load back allocates loads does =>
      rw [if_neg yields]
      exact ⟨slot, row, allocates, rfl, rfl, begins⟩

/-- A return block contains what it is set up with. -/
theorem returns_of_returnsBy (returns : ReturnsBy body.symbol known? body.result front content slot?)
    (same : body.slot? world = slot?) (contains : world.row exit = content) :
    body.Returns exit world := by
  unfold Returns
  rw [same, contains]
  generalize body.result = result at returns
  cases returns with
  | nothing back does =>
      rw [if_pos rfl]
      exact ⟨back, does, rfl⟩
  | slot yields slot load back allocates loads does =>
      rw [if_neg yields]
      exact ⟨slot.result body.symbol, load, back, rfl, loads, does, rfl⟩

end

end FunctionBody

/-- A function with the block that its shared returns lead to, or will lead to. -/
structure ReturnSite extends FunctionBody where
  /-- The block that shared returns lead to, or will lead to. -/
  exit : BlockRef
  /-- The instructions of the entry at the outset. -/
  outset : List Instruction
  /-- The generators of the function, those included that are still to come. -/
  Owns : GeneratorId → Prop

namespace ReturnSite

open FunctionBody

variable (site : ReturnSite)

/-- **A value is clear of the return block** if it is another one. It may be the block that is
meant as the return block only if that is there already and is not the return block. -/
def Clear (world : World) (value : Value) : Prop :=
  value = .operand (.block site.exit) →
    site.exit? world ≠ some site.exit ∧ site.exit.place < site.blockCount world

/-- **The invariant of a function with shared returns.** -/
structure Holds (world : World) : Prop where
  /-- The function is there. -/
  isThere : (world.function? site.reference).isSome
  /-- It stands for its routine. -/
  stands : world.functionSymbol site.reference = site.symbol
  /-- It begins at its entry. -/
  entry : (world.function site.reference).entry = some site.entry
  /-- Its routine is there and yields what the function yields. -/
  result : (world.routine? site.symbol).map Routine.result = some site.result
  /-- The entry is a block of the routine. -/
  entryInside : site.entry.routine = site.symbol ∧ site.entry.place < site.blockCount world
  /-- Only blocks that are there are in order. -/
  ordered : ∀ place ∈ world.order site.symbol, place < site.blockCount world
  /-- New generators are generators of the function. -/
  fresh (place : GeneratorId) : world.generators.length ≤ place → site.Owns place
  /-- The generators of the function are for the function. -/
  own (place : GeneratorId) : place < world.generators.length → site.Owns place →
    (world.generator place).function = site.reference
  /-- No generator is positioned at the return block. -/
  clear (place : GeneratorId) : place < world.generators.length →
    site.Clear world (world.generator place).block
  /-- Without a return block there is no slot. -/
  before : site.exit? world = none →
    site.slot? world = none ∧ site.outset <+: world.row site.entry
  /-- The return block is a block of the routine other than the entry, and then there is a slot if
  there has to be one. -/
  set (exit : BlockRef) : site.exit? world = some exit →
    exit.routine = site.symbol ∧ exit.place < site.blockCount world ∧ exit ≠ site.entry ∧
      site.HasSlot site.outset world
  /-- The return block is in order once and contains what it was set up with. -/
  funnel : site.exit? world = some site.exit →
    (world.order site.symbol).count site.exit.place = 1 ∧ site.Returns site.exit world

/-- **The course of a function with shared returns**: the invariant holds later on, and what is
there stays what it is. -/
structure Later (before after : World) : Prop where
  /-- The invariant holds later on. -/
  holds : site.Holds after
  /-- Generators stay there. -/
  generators : before.generators.length ≤ after.generators.length
  /-- Blocks stay there. -/
  blocks : site.blockCount before ≤ site.blockCount after
  /-- The return block is never replaced. -/
  exit (known : BlockRef) : site.exit? before = some known → site.exit? after = some known
  /-- The slot is never replaced. -/
  slot (known : Operand) : site.slot? before = some known → site.slot? after = some known
  /-- A return block that comes up is a new block. -/
  anew (known : BlockRef) : site.exit? before = none → site.exit? after = some known →
    site.blockCount before ≤ known.place

instance : IsCourse site.Later where
  trans first second :=
    { holds := second.holds
      generators := Nat.le_trans first.generators second.generators
      blocks := Nat.le_trans first.blocks second.blocks
      exit := fun known there => second.exit known (first.exit known there)
      slot := fun known there => second.slot known (first.slot known there)
      anew := fun known missing there => by
        rcases between : site.exit? _ with _ | other
        · exact Nat.le_trans first.blocks (second.anew known between there)
        · have same := second.exit other between
          rw [there, Option.some.injEq] at same
          exact first.anew known missing (same ▸ between) }
  arrives course :=
    { holds := course.holds
      generators := Nat.le_refl _
      blocks := Nat.le_refl _
      exit := fun _ => id
      slot := fun _ => id
      anew := fun known missing there => by rw [missing] at there; cases there }

variable {site}

/-- One may stay where the invariant holds. -/
theorem Holds.refl {world : World} (holds : site.Holds world) : site.Later world world where
  holds := holds
  generators := Nat.le_refl _
  blocks := Nat.le_refl _
  exit _ := id
  slot _ := id
  anew known missing there := by rw [missing] at there; cases there

/-- The routine of the function is there. -/
theorem Holds.isSome_routine {world : World} (holds : site.Holds world) :
    (world.routine? site.symbol).isSome := by
  rw [← Option.isSome_map (f := Routine.result), holds.result]
  rfl

/-- What is clear of the return block stays so. -/
theorem Clear.later {before after : World} {value : Value} (clear : site.Clear before value)
    (later : site.Later before after) : site.Clear after value := by
  intro same
  obtain ⟨other, inside⟩ := clear same
  refine ⟨fun there => ?_, Nat.lt_of_lt_of_le inside later.blocks⟩
  rcases known : site.exit? before with _ | exit
  · exact absurd (later.anew _ known there) (Nat.not_le.mpr inside)
  · have still := later.exit exit known
    rw [there, Option.some.injEq] at still
    exact other (still ▸ known)

/-! ## Changes that keep the function -/

/-- **What keeps a function on its course**: its record stays as it is, blocks are only added,
instructions are added behind those that are there but not in the return block, and generators stay
clear of the return block. -/
theorem Holds.later {before after : World} (holds : site.Holds before)
    (function? : after.function? site.reference = before.function? site.reference)
    (result : (before.routine? site.symbol).map Routine.result = some site.result →
      (after.routine? site.symbol).map Routine.result = some site.result)
    (blocks : site.blockCount before ≤ site.blockCount after)
    (ordered : ∀ place ∈ after.order site.symbol, place < site.blockCount after)
    (count : site.exit? before = some site.exit →
      (after.order site.symbol).count site.exit.place =
        (before.order site.symbol).count site.exit.place)
    (row : ∀ place, before.row place <+: after.row place)
    (exitRow : site.exit? before = some site.exit → after.row site.exit = before.row site.exit)
    (generators : before.generators.length ≤ after.generators.length)
    (own : ∀ place, place < after.generators.length → site.Owns place →
      (after.generator place).function = site.reference)
    (clear : ∀ place, place < after.generators.length →
      site.Clear after (after.generator place).block) :
    site.Later before after := by
  have function_eq : after.function site.reference = before.function site.reference := by
    rw [World.function_eq, World.function_eq, function?]
  have exit_eq : site.exit? after = site.exit? before := congrArg Function.exit function_eq
  have slot_eq : site.slot? after = site.slot? before := congrArg Function.slot function_eq
  have entry_row : site.outset <+: before.row site.entry → site.outset <+: after.row site.entry :=
    fun held => held.trans (row site.entry)
  have hasSlot : site.HasSlot site.outset before → site.HasSlot site.outset after := by
    unfold HasSlot
    rw [slot_eq]
    split
    · exact fun held => ⟨held.1, entry_row held.2⟩
    · rintro ⟨slot, rest, allocates, known, first, held⟩
      obtain ⟨added, longer⟩ := row site.entry
      rw [first, List.cons_append] at longer
      exact ⟨slot, rest ++ added, allocates, known, longer.symm,
        held.trans (List.prefix_append rest added)⟩
  have returns (there : site.exit? before = some site.exit) :
      site.Returns site.exit before → site.Returns site.exit after := by
    unfold Returns
    rw [slot_eq, exitRow there]
    exact id
  refine
    { holds :=
        { isThere := by rw [function?]; exact holds.isThere
          stands := by rw [← holds.stands, World.functionSymbol, World.functionSymbol, function_eq]
          entry := by rw [function_eq]; exact holds.entry
          result := result holds.result
          entryInside := ⟨holds.entryInside.1, Nat.lt_of_lt_of_le holds.entryInside.2 blocks⟩
          ordered := ordered
          fresh := fun place beyond => holds.fresh place (Nat.le_trans generators beyond)
          own := own
          clear := clear
          before := fun missing => ?_
          set := fun exit there => ?_
          funnel := fun there => ?_ }
      generators := generators
      blocks := blocks
      exit := fun known there => exit_eq ▸ there
      slot := fun known there => slot_eq ▸ there
      anew := fun known missing there => ?_ }
  · rw [exit_eq] at missing
    obtain ⟨slot, held⟩ := holds.before missing
    exact ⟨slot_eq ▸ slot, entry_row held⟩
  · rw [exit_eq] at there
    obtain ⟨routine, inside, other, slot⟩ := holds.set exit there
    exact ⟨routine, Nat.lt_of_lt_of_le inside blocks, other, hasSlot slot⟩
  · rw [exit_eq] at there
    obtain ⟨once, held⟩ := holds.funnel there
    exact ⟨(count there).trans once, returns there held⟩
  · rw [exit_eq, missing] at there
    cases there

/-- Clearness only depends on what is recorded of the function and on how many blocks there are. -/
theorem Clear.of_eq {before after : World} {value : Value} (clear : site.Clear before value)
    (function? : after.function? site.reference = before.function? site.reference)
    (blocks : site.blockCount before ≤ site.blockCount after) : site.Clear after value := by
  intro same
  obtain ⟨other, inside⟩ := clear same
  refine ⟨fun there => other ?_, Nat.lt_of_lt_of_le inside blocks⟩
  rw [← there, exit?, exit?, World.function_eq, World.function_eq, function?]

/-- Instructions may be added where a generator could be. -/
theorem Holds.later_of_frame {before after : World} (holds : site.Holds before)
    (frame : SameFrame before after) (row : ∀ place, before.row place <+: after.row place)
    (exitRow : site.exit? before = some site.exit → after.row site.exit = before.row site.exit) :
    site.Later before after := by
  have blocks : site.blockCount after = site.blockCount before := frame.blockCount site.symbol
  refine holds.later (frame.function? _) (frame.result _ _) blocks.ge (fun place member => ?_)
    (fun _ => by rw [frame.order]) row exitRow (by rw [frame.generators])
    (fun place inside owned => ?_) (fun place inside => ?_)
  · rw [frame.order] at member
    exact blocks ▸ holds.ordered place member
  · rw [frame.generators] at inside
    rw [frame.generator]
    exact holds.own place inside owned
  · rw [frame.generators] at inside
    rw [frame.generator]
    exact (holds.clear place inside).of_eq (frame.function? _) blocks.ge

/-- What changes no code keeps the course. -/
theorem Holds.later_of_sameCode {before after : World} (holds : site.Holds before)
    (same : SameCode before after) : site.Later before after :=
  holds.later_of_frame same.toSameFrame (fun place => by rw [same.row])
    fun _ => same.row site.exit

/-- What only emits where a generator is keeps the course. -/
theorem Holds.later_of_emits {before after : World} {place : GeneratorId}
    (holds : site.Holds before) (inside : place < before.generators.length)
    (emits : Emits place before after) : site.Later before after := by
  refine holds.later_of_frame emits.toSameFrame (fun block => ?_) (fun there => ?_)
  · obtain ⟨added, -, longer, -⟩ := emits.row block
    exact longer ▸ List.prefix_append _ added
  · obtain ⟨added, -, longer, nothing | here⟩ := emits.row site.exit
    · rw [longer, nothing, List.append_nil]
    · exact absurd there ((holds.clear place inside) here).1

/-- An instruction may be added to a block that is clear of the return block. -/
theorem Holds.later_of_changesRow {before after : World} {block : BlockRef} {made : Instruction}
    (holds : site.Holds before) (clear : site.Clear before (.operand (.block block)))
    (changes : ChangesRow block (· ++ [made]) before after) : site.Later before after := by
  refine holds.later_of_frame changes.toSameFrame (fun place => ?_) (fun there => ?_)
  · rw [changes.row]
    split
    next same => exact same.1 ▸ List.prefix_append _ _
    next => exact List.prefix_rfl
  · rw [changes.row, if_neg]
    rintro ⟨same, -⟩
    exact (clear (by rw [same])).1 there

/-- A new block keeps the course, and is clear of the return block. -/
theorem Holds.later_of_addsBlock {before after : World} (holds : site.Holds before)
    (adds : AddsBlock site.symbol before after) :
    site.Later before after ∧
      site.Clear after (.operand (.block ⟨site.symbol, site.blockCount before⟩)) := by
  have blocks : site.blockCount after = site.blockCount before + 1 := by
    rw [blockCount, adds.blockCount, if_pos rfl]
  have grown : site.blockCount before ≤ site.blockCount after := by omega
  have order : after.order site.symbol = before.order site.symbol ++ [site.blockCount before] := by
    rw [adds.order, if_pos rfl]
  have generator (place : GeneratorId) : after.generator place = before.generator place := by
    rw [World.generator, World.generator, adds.generators]
  constructor
  · refine holds.later (adds.function? _) (adds.result _ _) grown (fun place member => ?_)
      (fun there => ?_) (fun place => by rw [adds.row]) (fun _ => adds.row _)
      (by rw [adds.generators]) (fun place inside owned => ?_) (fun place inside => ?_)
    · rw [order, List.mem_append, List.mem_singleton] at member
      rcases member with old | rfl
      · exact Nat.lt_of_lt_of_le (holds.ordered place old) grown
      · omega
    · have inside := (holds.set _ there).2.1
      rw [order, List.count_append, List.count_singleton]
      have other : (site.blockCount before == site.exit.place) = false := by
        rw [beq_eq_false_iff_ne]
        omega
      rw [other]
      rfl
    · rw [adds.generators] at inside
      rw [generator]
      exact holds.own place inside owned
    · rw [adds.generators] at inside
      rw [generator]
      exact (holds.clear place inside).of_eq (adds.function? _) grown
  · intro same
    have place : site.blockCount before = site.exit.place :=
      congrArg BlockRef.place (Operand.block.inj (Value.operand.inj same))
    refine ⟨fun there => ?_, by omega⟩
    have before_there : site.exit? before = some site.exit := by
      rw [← there, exit?, exit?, World.function_eq, World.function_eq, adds.function?]
    have inside := (holds.set _ before_there).2.1
    omega

/-- Another order of the blocks keeps the course if the return block stays in it. -/
theorem Holds.later_of_reorders {before after : World} {order : List Nat}
    (holds : site.Holds before) (reorders : Reorders site.symbol order before after)
    (inside : ∀ place ∈ order, place ∈ before.order site.symbol)
    (count : site.exit? before = some site.exit →
      order.count site.exit.place = (before.order site.symbol).count site.exit.place) :
    site.Later before after := by
  have blocks : site.blockCount after = site.blockCount before := reorders.blockCount site.symbol
  have order_eq : after.order site.symbol = order := by rw [reorders.order, if_pos rfl]
  have generator (place : GeneratorId) : after.generator place = before.generator place := by
    rw [World.generator, World.generator, reorders.generators]
  refine holds.later (reorders.function? _) (reorders.result _ _) blocks.ge
    (fun place member => ?_) (fun there => ?_) (fun place => by rw [reorders.row])
    (fun _ => reorders.row _) (by rw [reorders.generators]) (fun place known owned => ?_)
    (fun place known => ?_)
  · rw [order_eq] at member
    exact blocks ▸ holds.ordered place (inside place member)
  · rw [order_eq]
    exact count there
  · rw [reorders.generators] at known
    rw [generator]
    exact holds.own place known owned
  · rw [reorders.generators] at known
    rw [generator]
    exact (holds.clear place known).of_eq (reorders.function? _) blocks.ge

/-- A generator that is there may change, as long as it is for the same function and clear of the
return block. -/
theorem Holds.later_of_changeGenerator {world : World} {place : GeneratorId}
    {update : Generator → Generator} (holds : site.Holds world)
    (function : ∀ generator, (update generator).function = generator.function)
    (clear : place < world.generators.length →
      site.Clear world (update (world.generator place)).block) :
    site.Later world (world.changeGenerator place update) := by
  have length : (world.changeGenerator place update).generators.length =
      world.generators.length := world.length_changeGenerator place update
  refine holds.later rfl id (Nat.le_refl _) holds.ordered (fun _ => rfl)
    (fun _ => List.prefix_rfl) (fun _ => rfl) length.ge (fun other inside owned => ?_)
    (fun other inside => ?_)
  · rw [length] at inside
    have own := holds.own other inside owned
    rw [World.generator_changeGenerator]
    split
    next same => rw [function, ← same.1, own]
    next => exact own
  · rw [length] at inside
    rw [World.generator_changeGenerator]
    split
    next same => exact clear same.2
    next => exact holds.clear other inside

/-- A generator for the function may come up, clear of the return block. -/
theorem Holds.later_of_addGenerator {world : World} {generator : Generator}
    (holds : site.Holds world) (function : generator.function = site.reference)
    (clear : site.Clear world generator.block) :
    site.Later world { world with generators := world.generators ++ [generator] } := by
  have length : ({ world with generators := world.generators ++ [generator] } :
      World).generators.length = world.generators.length + 1 := List.length_append
  refine holds.later rfl id (Nat.le_refl _) holds.ordered (fun _ => rfl)
    (fun _ => List.prefix_rfl) (fun _ => rfl) (by omega) (fun other inside owned => ?_)
    (fun other inside => ?_)
  · rw [length] at inside
    rw [World.generator_append]
    split
    · exact function
    next old =>
      exact holds.own other (Nat.lt_of_le_of_ne (Nat.le_of_lt_succ inside) old) owned
  · rw [length] at inside
    rw [World.generator_append]
    split
    · exact clear
    next old => exact holds.clear other (Nat.lt_of_le_of_ne (Nat.le_of_lt_succ inside) old)

/-! ## Setting up the return block -/

/-- What is recorded of the function once its return block is set up. -/
theorem function_of_setsUp {before after : World} {front content : List Instruction}
    {slot? : Option Operand} (holds : site.Holds before)
    (sets : SetsUpReturn site.reference site.symbol site.entry front content slot? before after) :
    after.function site.reference =
      { before.function site.reference with
        slot := slot?
        exit := some ⟨site.symbol, site.blockCount before⟩ } := by
  obtain ⟨function, found⟩ := Option.isSome_iff_exists.mp holds.isThere
  rw [World.function_eq, sets.function?, if_pos rfl, World.function_eq, found]
  rfl

/-- Setting up the return block keeps the course. -/
theorem Holds.later_of_setsUp {before after : World} {front content : List Instruction}
    {slot? : Option Operand} (holds : site.Holds before) (missing : site.exit? before = none)
    (sets : SetsUpReturn site.reference site.symbol site.entry front content slot? before after)
    (returns : ReturnsBy site.symbol (site.slot? before) site.result front content slot?) :
    site.Later before after := by
  have function := function_of_setsUp holds sets
  have exit_eq : site.exit? after = some ⟨site.symbol, site.blockCount before⟩ :=
    congrArg Function.exit function
  have slot_eq : site.slot? after = slot? := congrArg Function.slot function
  have blocks : site.blockCount after = site.blockCount before + 1 := by
    rw [blockCount, sets.blockCount, if_pos rfl]
  have order : after.order site.symbol = before.order site.symbol ++ [site.blockCount before] := by
    rw [sets.order, if_pos rfl]
  have other : site.entry ≠ ⟨site.symbol, site.blockCount before⟩ := by
    intro same
    have inside := holds.entryInside.2
    rw [same] at inside
    exact Nat.lt_irrefl _ inside
  have entry_row : after.row site.entry = front ++ before.row site.entry := by
    rw [sets.row, if_neg other, if_pos rfl]
  have exit_row : after.row ⟨site.symbol, site.blockCount before⟩ = content := by
    rw [sets.row]
    exact if_pos rfl
  obtain ⟨no_slot, outset⟩ := holds.before missing
  have slot_held := hasSlot_of_returnsBy returns no_slot slot_eq entry_row outset
  have generator (place : GeneratorId) : after.generator place = before.generator place := by
    rw [World.generator, World.generator, sets.generators]
  refine
    { holds :=
        { isThere := by
            rw [sets.function?, if_pos rfl, Option.isSome_map]
            exact holds.isThere
          stands := by rw [← holds.stands, World.functionSymbol, World.functionSymbol, function]
          entry := by rw [function]; exact holds.entry
          result := sets.result _ _ holds.result
          entryInside :=
            ⟨holds.entryInside.1, blocks ▸ Nat.lt_succ_of_lt holds.entryInside.2⟩
          ordered := ?ordered
          fresh := fun place beyond => holds.fresh place (sets.generators ▸ beyond)
          own := ?own
          clear := ?clear
          before := fun gone => by rw [exit_eq] at gone; cases gone
          set := ?set
          funnel := ?funnel }
      generators := by rw [sets.generators]
      blocks := by omega
      exit := fun known there => by rw [missing] at there; cases there
      slot := fun known there => by rw [no_slot] at there; cases there
      anew := ?anew }
  case ordered =>
    intro place member
    rw [order, List.mem_append, List.mem_singleton] at member
    rcases member with old | rfl
    · have inside := holds.ordered place old
      omega
    · omega
  case own =>
    intro place known owned
    rw [sets.generators] at known
    rw [generator]
    exact holds.own place known owned
  case clear =>
    -- A generator is at a block that was there, and so not at the return block.
    intro place known
    rw [sets.generators] at known
    rw [generator]
    intro same
    obtain ⟨-, inside⟩ := holds.clear place known same
    refine ⟨fun there => ?_, by omega⟩
    rw [exit_eq, Option.some.injEq] at there
    have place_eq : site.blockCount before = site.exit.place := congrArg BlockRef.place there
    omega
  case set =>
    intro exit there
    rw [exit_eq, Option.some.injEq] at there
    subst there
    exact ⟨rfl, blocks ▸ Nat.lt_succ_self _, other.symm, slot_held⟩
  case funnel =>
    intro there
    rw [exit_eq, Option.some.injEq] at there
    have place_eq : site.blockCount before = site.exit.place := congrArg BlockRef.place there
    refine ⟨?_, returns_of_returnsBy returns slot_eq (there ▸ exit_row)⟩
    have absent : site.blockCount before ∉ before.order site.symbol := fun member =>
      Nat.lt_irrefl _ (holds.ordered _ member)
    rw [order, ← place_eq, List.count_append, List.count_eq_zero_of_not_mem absent,
      List.count_singleton_self]
  case anew =>
    intro known _ there
    rw [exit_eq, Option.some.injEq] at there
    subst there
    exact Nat.le_refl _

end ReturnSite

end StructuredIR
