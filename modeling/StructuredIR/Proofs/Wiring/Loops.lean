import StructuredIR.Proofs.Wiring.Layouts

/-! # What loops wire

A loop sets up its slots, lays its blocks, and builds its parts on them one after the other.

* **`Circuit`** is what comes up with a loop, and **`Construction.WiresLoop`** says what is known of it:
  where the parts begin, what they end by, where `brk` and `cont` lead to in them, and that there are
  no other terminators.
* **`Construction.BuildsEach`**: parts that are built in a row on different blocks leave each other
  alone.
* **`Construction.Hosts.loop`**: a loop whose callbacks work with their own generators only wires this,
  and changes no other generator and no other block that was there. -/

namespace StructuredIR

open Build (Leads bind_eq_ok get_eq_ok map_eq_ok modify_eq_ok pure_eq_ok)
open Generator (blockValue branchTarget conditionType)

/-- **Parts that are built one after the other** leave the order of blocks to each other: each callback
finds it as the one before has left it. -/
def Threads (symbol : SymbolRef) : List Nat → List Part → List Nat → Prop
  | order, [], final => final = order
  | order, part :: parts, final =>
      part.opened.order symbol = order ∧ Threads symbol (part.built.order symbol) parts final

/-- **No block is taken out of its order** if no callback takes one out, and each callback finds those
in order that were. -/
theorem Threads.subset {symbol : SymbolRef} {parts : List Part} {order final : List Nat}
    (threads : Threads symbol order parts final)
    (kept : ∀ part ∈ parts, part.opened.order symbol ⊆ part.built.order symbol) :
    order ⊆ final ∧ ∀ part ∈ parts, order ⊆ part.opened.order symbol := by
  induction parts generalizing order with
  | nil =>
      cases threads
      exact ⟨List.Subset.refl _, nofun⟩
  | cons part parts ih =>
      obtain ⟨rfl, rest⟩ := threads
      have first := kept part List.mem_cons_self
      obtain ⟨last, later⟩ := ih rest fun part member => kept part (List.mem_cons_of_mem _ member)
      refine ⟨List.Subset.trans first last, fun other member => ?_⟩
      rcases List.mem_cons.mp member with rfl | member
      · exact List.Subset.refl _
      · exact List.Subset.trans first (later other member)

/-- The callbacks that build the parts of a loop, in the order in which they are called. -/
def Generator.LoopParts.callbacks (parts : Generator.LoopParts) : List Callback :=
  parts.body.toList ++ parts.compare.toList ++ parts.increment.toList

/-- **What comes up with a loop.** -/
structure Circuit where
  /-- The slots. -/
  slots : List Operand
  /-- The block at which the generator is. -/
  here : BlockRef
  /-- The header, the blocks at which parts begin, and the exit. -/
  blocks : Generator.LoopBlocks
  /-- What is laid for the header. -/
  forHeader : List BlockRef
  /-- What is laid for the body. -/
  forBody : List BlockRef
  /-- What is laid for the increment. -/
  forIncrement : List BlockRef
  /-- What is laid for the exit. -/
  forExit : List BlockRef
  /-- The body, if there is one. -/
  body? : Option Part
  /-- The condition, if there is one. -/
  compare? : Option Part
  /-- The increment, if there is one. -/
  increment? : Option Part

namespace Circuit

variable (circuit : Circuit)

/-- The parts, in the order in which they are built. -/
def parts : List Part :=
  circuit.body?.toList ++ circuit.compare?.toList ++ circuit.increment?.toList

/-- All blocks that are laid before the parts are built. -/
def laid : List BlockRef :=
  circuit.forHeader ++ (circuit.forBody ++ circuit.forIncrement ++ circuit.forExit)

/-- The branch to the header, if that is a new block. -/
def entering (block : BlockRef) : List Operation :=
  if block = circuit.here ∧ circuit.blocks.header ≠ circuit.here then
    [.branch (blockValue circuit.blocks.header)]
  else []

end Circuit

namespace Construction

variable (site : Construction)

/-- **One part has been built**, and the blocks are in the order in which its callback has left
them. -/
structure BuildsNext (base : World) (part : Part) (after : World) : Prop
    extends site.Completes base part after where
  /-- The callback finds the order as it was. -/
  finds : part.opened.order site.symbol = base.order site.symbol
  /-- The order is as the callback has left it. -/
  leaves : after.order site.symbol = part.built.order site.symbol

/-- **Some parts have been built** one after the other, and nothing else has happened. -/
def BuildsEach : World → List Part → World → Prop
  | before, [], after => after = before
  | before, part :: parts, after => ∃ middle, site.BuildsNext before part middle ∧
      BuildsEach middle parts after

/-- **How a condition leads on**: its block ends by a conditional branch to the body, or to where a turn
goes on without one, and to the exit, unless the callback has finished its generator. -/
inductive Decides (blocks : Generator.LoopBlocks) (result : Value) (part : Part) :
    Option Operation → Prop where
  /-- The callback has finished its generator. -/
  | closed : part.open? = none → Decides blocks result part none
  /-- The condition is what the callback gives. -/
  | tests (tested : Operand) (coerced : World) :
      Generator.coerce part.place result (some conditionType) part.built = .ok tested coerced →
      Decides blocks result part
        (some (.branchIf tested (blockValue (blocks.body.getD blocks.continue)) blocks.exit))

/-- **What a callback of a loop builds**: a part, with a generator that knows where the turns go on and
where they end. -/
def BuildsPart (blocks : Generator.LoopBlocks) (callback : Callback) (values : List Value)
    (part : Part) : Prop :=
  site.Runs callback values (blockValue blocks.continue) blocks.exit part

/-- The values that a callback is called with have been loaded from slots where its part begins. -/
def LoadsFrom (slots : List Operand) (values : List Value) (part : Part) : Prop :=
  ∃ entered, Generator.loadSlots part.place slots entered = .ok values part.opened

/-- **The blocks of a loop.** -/
structure LaidOut (place : GeneratorId) (initial : Value) (parts : Generator.LoopParts)
    (given : Value) (before : World) (circuit : Circuit) : Prop where
  /-- The generator is at the block. -/
  standing : (before.generator place).block = blockValue circuit.here
  /-- **The header is the block** if that has no instructions once the slots are set up and is not the
  entry, and a new block otherwise. -/
  header : ∃ slotted, Generator.createSlots place (before.loopValues initial) before =
      .ok circuit.slots slotted ∧
    (circuit.blocks.header = circuit.here ↔
      slotted.row circuit.here = [] ∧ site.entry? ≠ some circuit.here) ∧
    circuit.forHeader =
      if circuit.blocks.header = circuit.here then [] else [circuit.blocks.header]
  /-- **The body begins** at a new block if there is a condition, and else at the header. -/
  bodyAt : PlacedAt circuit.blocks.header parts.body.isSome parts.compare.isSome circuit.blocks.body
    circuit.forBody
  /-- **The increment begins** at a new block if there is another part, and else at the header. -/
  incrementAt : PlacedAt circuit.blocks.header parts.increment.isSome
    (parts.body.isSome || parts.compare.isSome) circuit.blocks.increment circuit.forIncrement
  /-- **The loop ends** at what is given, or else at a new block. -/
  exitAt : EndsAt given circuit.blocks.exit circuit.forExit
  /-- The blocks that are laid are new. -/
  fresh (block : BlockRef) : block ∈ circuit.laid → site.IsNew before block
  /-- No two of them are the same. -/
  nodup : circuit.laid.Nodup

/-- **The blocks of a loop have been laid**, and nothing else has happened. -/
structure LaysLoop (place : GeneratorId) (initial : Value) (parts : Generator.LoopParts)
    (given : Value) (before : World) (circuit : Circuit) (after : World) : Prop
    extends site.LaidOut place initial parts given before circuit where
  /-- There is a branch to a new header. -/
  enters : circuit.blocks.header ≠ circuit.here →
    after.EndsBy circuit.here (.branch (blockValue circuit.blocks.header))
  /-- Of what was there only the block has changed at which the generator is. -/
  progress : site.Progress nothing (· = circuit.here) before after
  /-- There are no other terminators. -/
  endings (block : BlockRef) : after.endings block = before.endings block ++ circuit.entering block
  /-- The blocks are there. -/
  has (block : BlockRef) : block ∈ circuit.blocks.header :: circuit.laid → after.Has block
  /-- The header is not the entry. -/
  apart : site.entry? ≠ some circuit.blocks.header
  /-- It is none of the blocks at which other parts begin. -/
  distinct : (circuit.blocks.header :: (circuit.forBody ++ circuit.forIncrement)).Nodup
  /-- The blocks are behind all others. -/
  order : after.order site.symbol = before.order site.symbol ++ circuit.laid.map BlockRef.place

/-- **What steers a part of a loop**: whatever its generator has done before, `brk` leads to the exit,
and `cont` to where a turn goes on. -/
structure Steers (blocks : Generator.LoopBlocks) (part : Part) : Prop where
  /-- Leaving the loop is a branch to the exit. -/
  leaves (world after : World) (value : Value) : site.Advances part.place part.opened world →
    (world.generator part.place).isFinished = false →
      Generator.leaveLoop part.place world = .ok value after →
        ∃ block, (world.generator part.place).block = blockValue block ∧
          after.EndsBy block (.branch (branchTarget world blocks.exit))
  /-- Going on to the next turn is a branch to where a turn goes on. -/
  goesOn (world after : World) (value : Value) : site.Advances part.place part.opened world →
    (world.generator part.place).isFinished = false →
      Generator.nextTurn part.place world = .ok value after →
        ∃ block, (world.generator part.place).block = blockValue block ∧
          after.EndsBy block (.branch (blockValue blocks.continue))

/-- **The parts of a loop** and where each of them leads on to. -/
structure Turns (parts : Generator.LoopParts) (circuit : Circuit) : Prop where
  /-- **The body goes on** to the increment, or to the header if there is none. -/
  body : Option.Rel (fun callback part => circuit.blocks.body = some part.start ∧
    (∃ values, LoadsFrom (Generator.trimmed callback circuit.slots) values part ∧
      site.BuildsPart circuit.blocks callback values part) ∧
    part.onward = some (.branch (blockValue circuit.blocks.continue))) parts.body circuit.body?
  /-- **The condition decides** between another turn and the exit. -/
  compare : Option.Rel (fun callback part => circuit.blocks.header = part.start ∧
    ∃ values result, LoadsFrom (Generator.trimmed callback circuit.slots) values part ∧
      site.BuildsPart circuit.blocks callback values part ∧
      callback.run (.generator part.place :: values) part.opened = .ok result part.built ∧
      Decides circuit.blocks result part part.onward) parts.compare circuit.compare?
  /-- **The increment goes on** to the header. -/
  increment : Option.Rel (fun callback part => circuit.blocks.increment = some part.start ∧
    site.BuildsPart circuit.blocks callback
      ((Generator.trimmed callback circuit.slots).map .operand) part ∧
    part.onward = some (.branch (blockValue circuit.blocks.header))) parts.increment circuit.increment?

/-- **What a loop wires**: the block at which the generator is leads to the header, the parts are led
around in a circle and the condition out of it, and there is nothing else that ends a block but what
the callbacks have added. -/
structure WiresLoop (place : GeneratorId) (initial : Value) (parts : Generator.LoopParts)
    (given : Value) (before : World) (circuit : Circuit) (after : World) : Prop
    extends site.LaidOut place initial parts given before circuit, site.Turns parts circuit where
  /-- **The block leads to the header** if that is a new block. -/
  enters : circuit.blocks.header ≠ circuit.here →
    after.EndsBy circuit.here (.branch (blockValue circuit.blocks.header))
  /-- The blocks that are laid are there. -/
  has (block : BlockRef) : block ∈ circuit.laid → after.Has block
  /-- **Each part ends by what leads it on**, if it is left open, and is otherwise as its callback has
  left it. Its generator is finished. -/
  settled (part : Part) : part ∈ circuit.parts → site.Built part ∧ site.Settled part after
  /-- **In each part there is a way out and a way on.** -/
  steers (part : Part) : part ∈ circuit.parts → site.Steers circuit.blocks part
  /-- **There are no other terminators.** -/
  endings (block : BlockRef) : after.endings block = before.endings block ++
    circuit.entering block ++ circuit.parts.flatMap (·.edges block)
  /-- **The generator goes on at the exit**, or is finished if that was given. -/
  record : after.generator place =
    if given.isGiven then { before.generator place with isFinished := true }
    else { before.generator place with block := circuit.blocks.exit }
  /-- **The exit is moved to the end**, unless it was given. -/
  order : ∃ order, Threads site.symbol
      (before.order site.symbol ++ circuit.laid.map BlockRef.place) circuit.parts order ∧
    if given.isGiven then after.order site.symbol = order
    else ∃ exit, circuit.blocks.exit = blockValue exit ∧
      after.order site.symbol = order.erase exit.place ++ [exit.place]

variable {site} {before middle after base : World} {place : GeneratorId} {part : Part}
  {parts : List Part}

/-! ## Parts in a row -/

namespace BuildsEach

/-- Only the blocks have changed at which parts begin. -/
theorem progress (builds : site.BuildsEach before parts after) (holds : site.Holds before) :
    site.Progress nothing (fun block => ∃ part ∈ parts, block = part.start) before after := by
  induction parts generalizing before with
  | nil =>
      cases builds
      exact holds.refl
  | cons part parts ih =>
      obtain ⟨middle, next, rest⟩ := builds
      refine (next.progress.weaken (fun _ _ => id) fun block _ same => ?_).trans
        (ih rest next.progress.holds) (fun _ _ => id) fun block _ meant => ?_
      · exact ⟨part, List.mem_cons_self, same⟩
      · obtain ⟨other, member, same⟩ := meant
        exact ⟨other, List.mem_cons_of_mem part member, same⟩

/-- The terminators that have come up are those of the parts. -/
theorem endings (builds : site.BuildsEach before parts after) (block : BlockRef) :
    after.endings block = before.endings block ++ parts.flatMap (·.edges block) := by
  induction parts generalizing before with
  | nil =>
      cases builds
      exact (List.append_nil _).symm
  | cons part parts ih =>
      obtain ⟨middle, next, rest⟩ := builds
      rw [ih rest, next.endings, List.flatMap_cons, List.append_assoc]

/-- The parts leave the order of blocks to each other. -/
theorem threads (builds : site.BuildsEach before parts after) :
    Threads site.symbol (before.order site.symbol) parts (after.order site.symbol) := by
  induction parts generalizing before with
  | nil =>
      cases builds
      rfl
  | cons part parts ih =>
      obtain ⟨middle, next, rest⟩ := builds
      refine ⟨next.finds, ?_⟩
      rw [← next.leaves]
      exact ih rest

/-- **Nothing more happens to parts that begin at different blocks** which are there from the outset. -/
theorem settled (builds : site.BuildsEach before parts after) (holds : site.Holds before)
    (apart : (parts.map Part.start).Nodup) (known : ∀ part ∈ parts, before.Has part.start)
    (part : Part) (member : part ∈ parts) :
    site.Built part ∧ before.generators.length ≤ part.place ∧
      (∀ block, before.Has block → site.Owns part block → block = part.start) ∧
        site.Settled part after := by
  induction parts generalizing before with
  | nil => cases member
  | cons first parts ih =>
      obtain ⟨middle, next, rest⟩ := builds
      rw [List.map_cons, List.nodup_cons] at apart
      rcases List.mem_cons.mp member with rfl | later
      · refine ⟨next.toBuilt, next.anew, fun block inside owns => owns.eq_start next.opens inside,
          next.settled.later next.toBuilt (progress rest next.progress.holds) id
            fun block owns meant => ?_⟩
        -- The other parts begin at blocks that were there, and so at none of this part.
        obtain ⟨other, among, rfl⟩ := meant
        have same := owns.eq_start next.opens (known other (List.mem_cons_of_mem part among))
        exact apart.1 (same ▸ List.mem_map_of_mem among)
      · obtain ⟨built, anew, owned, settled⟩ := ih rest next.progress.holds apart.2
          (fun part member => next.progress.has (known part (List.mem_cons_of_mem first member))) later
        exact ⟨built, Nat.le_trans next.progress.generators anew,
          fun block inside => owned block (next.progress.has inside), settled⟩

end BuildsEach

/-! ## One part -/

/-- Some parts have been built after others. -/
theorem BuildsEach.append {others : List Part} (first : site.BuildsEach before parts middle)
    (second : site.BuildsEach middle others after) : site.BuildsEach before (parts ++ others) after := by
  induction parts generalizing before with
  | nil =>
      cases first
      exact second
  | cons part parts ih =>
      obtain ⟨built, next, rest⟩ := first
      exact ⟨built, next, ih rest⟩

/-- **A part of a loop begins** with a generator that knows where the turns go on and where they end. -/
theorem Hosts.loopPart (hosts : site.Hosts base place) {block : BlockRef}
    {blocks : Generator.LoopBlocks} {child : GeneratorId}
    (run : Generator.loopPart place block blocks base = .ok child after) :
    child = base.generators.length ∧
      after = base.joined (site.startingAt block (blockValue blocks.continue) blocks.exit) := by
  obtain ⟨_, opened, opening, run⟩ := bind_eq_ok.mp run
  obtain ⟨_, changed, changing, run⟩ := bind_eq_ok.mp run
  obtain rfl := modify_eq_ok.mp changing
  obtain ⟨rfl, rfl⟩ := pure_eq_ok.mp run
  obtain ⟨rfl, rfl⟩ := hosts.childAt_ok opening
  refine ⟨rfl, ?_⟩
  show { base with generators := List.modify _ base.generators.length _ } = _
  exact congrArg (fun generators => { base with generators })
    (List.modifyTailIdx_add _ 0 base.generators [_])

/-- A callback has been called for a part of a loop. -/
theorem Hosts.buildPart (hosts : site.Hosts base place) {block : BlockRef}
    {blocks : Generator.LoopBlocks} {child : GeneratorId} {entered opened built : World}
    {callback : Callback} {values : List Value} {value : Value} (known : base.Has block)
    (apart : site.entry? ≠ some block) (trusts : site.Trusts callback)
    (entering : Generator.loopPart place block blocks base = .ok child entered)
    (loads : Emits child entered opened)
    (calling : callback.run (.generator child :: values) opened = .ok value built)
    (onward : Option Operation) :
    let part : Part := ⟨child, block, opened, built, onward⟩
    site.Begun base part ∧
      site.Runs callback values (blockValue blocks.continue) blocks.exit part ∧
        part.opened.order site.symbol = base.order site.symbol := by
  obtain ⟨rfl, rfl⟩ := hosts.loopPart entering
  obtain ⟨begun, runs⟩ : site.Begun base ⟨_, block, opened, built, onward⟩ ∧ _ :=
    hosts.toHolds.begun known apart rfl loads trusts calling
  exact ⟨begun, runs, loads.order site.symbol⟩

/-- A part that is led to a target is built. -/
theorem Begun.buildsNext (begun : site.Begun base part) {target : Value}
    (onward : part.onward = some (.branch (branchTarget part.built target)))
    (finds : part.opened.order site.symbol = base.order site.symbol)
    (run : Generator.leadTo part.place target part.built = .ok () after) :
    site.BuildsNext base part (finished part.place after) := by
  obtain ⟨leads, layout⟩ :=
    begun.leadTo onward begun.advances.progress.holds.refl (fun _ => rfl) run
  exact ⟨leads.completes begun, finds, layout.order _⟩

/-- **The body of a loop**, if there is one. -/
theorem Hosts.buildBody (hosts : site.Hosts base place) {blocks : Generator.LoopBlocks}
    {slots : List Operand} {body? : Option Callback}
    (trusts : ∀ body, body? = some body → site.Trusts body)
    (isSome : blocks.body.isSome = body?.isSome)
    (ready : ∀ block, blocks.body = some block → base.Has block ∧ site.entry? ≠ some block)
    (run : Generator.buildBody place blocks slots body? blocks.body base = .ok () after) :
    ∃ part? : Option Part, site.BuildsEach base part?.toList after ∧
      Option.Rel (fun body part => blocks.body = some part.start ∧
        (∃ values, LoadsFrom (Generator.trimmed body slots) values part ∧
          site.BuildsPart blocks body values part) ∧
        part.onward = some (.branch (blockValue blocks.continue))) body? part? := by
  cases begins : blocks.body with
  | none =>
      rw [begins] at isSome run
      cases body? with
      | none =>
          obtain ⟨-, rfl⟩ := pure_eq_ok.mp run
          exact ⟨none, rfl, .none⟩
      | some body => cases isSome
  | some block =>
      rw [begins] at isSome run
      cases body? with
      | none => cases isSome
      | some body =>
          obtain ⟨child, entered, entering, run⟩ := bind_eq_ok.mp run
          obtain ⟨values, opened, loading, run⟩ := bind_eq_ok.mp run
          obtain ⟨value, built, calling, run⟩ := bind_eq_ok.mp run
          obtain ⟨_, led, leading, run⟩ := bind_eq_ok.mp run
          obtain rfl := modify_eq_ok.mp run
          obtain ⟨known, apart⟩ := ready block begins
          have loads := (Generator.leads_loadSlots child _ : Leads (Emits child) _).of_ok loading
          obtain ⟨begun, runs, finds⟩ := hosts.buildPart known apart (trusts body rfl) entering loads
            calling (some (.branch (blockValue blocks.continue)))
          exact ⟨some ⟨child, block, opened, built, _⟩, ⟨_, begun.buildsNext rfl finds leading, rfl⟩,
            .some ⟨rfl, ⟨values, ⟨entered, loading⟩, runs⟩, rfl⟩⟩

/-- **The increment of a loop**, if there is one. -/
theorem Hosts.buildIncrement (hosts : site.Hosts base place) {blocks : Generator.LoopBlocks}
    {slots : List Operand} {increment? : Option Callback}
    (trusts : ∀ increment, increment? = some increment → site.Trusts increment)
    (isSome : blocks.increment.isSome = increment?.isSome)
    (ready : ∀ block, blocks.increment = some block → base.Has block ∧ site.entry? ≠ some block)
    (run : Generator.buildIncrement place blocks slots increment? blocks.increment base =
      .ok () after) :
    ∃ part? : Option Part, site.BuildsEach base part?.toList after ∧
      Option.Rel (fun increment part => blocks.increment = some part.start ∧
        site.BuildsPart blocks increment ((Generator.trimmed increment slots).map .operand) part ∧
        part.onward = some (.branch (blockValue blocks.header))) increment? part? := by
  cases begins : blocks.increment with
  | none =>
      rw [begins] at isSome run
      cases increment? with
      | none =>
          obtain ⟨-, rfl⟩ := pure_eq_ok.mp run
          exact ⟨none, rfl, .none⟩
      | some increment => cases isSome
  | some block =>
      rw [begins] at isSome run
      cases increment? with
      | none => cases isSome
      | some increment =>
          obtain ⟨child, entered, entering, run⟩ := bind_eq_ok.mp run
          obtain ⟨value, built, calling, run⟩ := bind_eq_ok.mp run
          obtain ⟨_, led, leading, run⟩ := bind_eq_ok.mp run
          obtain rfl := modify_eq_ok.mp run
          obtain ⟨known, apart⟩ := ready block begins
          obtain ⟨begun, runs, finds⟩ := hosts.buildPart known apart (trusts increment rfl) entering
            (IsEffect.refl entered) calling (some (.branch (blockValue blocks.header)))
          exact ⟨some ⟨child, block, entered, built, _⟩, ⟨_, begun.buildsNext rfl finds leading, rfl⟩,
            .some ⟨rfl, runs, rfl⟩⟩

/-- **A condition leads on**, unless its callback has finished its generator. -/
theorem Begun.branchOn (begun : site.Begun base part) {blocks : Generator.LoopBlocks} {result : Value}
    (run : Generator.branchOn part.place blocks result part.built = .ok () after) :
    ∃ onward, Decides blocks result { part with onward } onward ∧
      site.LeadsOn { part with onward } after ∧ SameLayout part.built after := by
  obtain ⟨seen, _, looked, run⟩ := bind_eq_ok.mp run
  obtain ⟨rfl, rfl⟩ := get_eq_ok.mp looked
  cases isFinished : (part.built.generator part.place).isFinished with
  | true =>
      rw [isFinished] at run
      cases run
      have closed : part.open? = none := by rw [Part.open?, isFinished, if_pos rfl]
      exact ⟨none, .closed closed, (begun.ledOn none).leadsOn_of_none (.inr rfl), fun _ => rfl,
        fun _ => rfl⟩
  | false =>
      rw [isFinished] at run
      obtain ⟨tested, coerced, coercing, run⟩ := bind_eq_ok.mp run
      obtain ⟨_, emitted, emitting, run⟩ := bind_eq_ok.mp run
      obtain rfl := modify_eq_ok.mp run
      have same := (Generator.leads_coerce part.place result _ : Leads SameCode _).of_ok coercing
      obtain ⟨leads, layout⟩ := (begun.ledOn (some _)).leadsOn_of_emit isFinished rfl rfl
        (begun.advances.progress.holds.sameCode same) same.row emitting
      exact ⟨_, .tests tested coerced coercing, leads,
        fun symbol => (layout.blockCount symbol).trans (same.blockCount symbol),
        fun symbol => (layout.order symbol).trans (same.order symbol)⟩

/-- **The condition of a loop**, if there is one. -/
theorem Hosts.buildCompare (hosts : site.Hosts base place) {blocks : Generator.LoopBlocks}
    {slots : List Operand} {compare? : Option Callback}
    (trusts : ∀ compare, compare? = some compare → site.Trusts compare)
    (known : base.Has blocks.header) (apart : site.entry? ≠ some blocks.header)
    (run : Generator.buildCompare place blocks slots compare? base = .ok () after) :
    ∃ part? : Option Part, site.BuildsEach base part?.toList after ∧
      Option.Rel (fun compare part => blocks.header = part.start ∧
        ∃ values result, LoadsFrom (Generator.trimmed compare slots) values part ∧
          site.BuildsPart blocks compare values part ∧
          compare.run (.generator part.place :: values) part.opened = .ok result part.built ∧
          Decides blocks result part part.onward) compare? part? := by
  cases compare? with
  | none =>
      obtain ⟨-, rfl⟩ := pure_eq_ok.mp run
      exact ⟨none, rfl, .none⟩
  | some compare =>
      obtain ⟨child, entered, entering, run⟩ := bind_eq_ok.mp run
      obtain ⟨values, opened, loading, run⟩ := bind_eq_ok.mp run
      obtain ⟨result, built, calling, run⟩ := bind_eq_ok.mp run
      obtain ⟨_, led, leading, run⟩ := bind_eq_ok.mp run
      obtain rfl := modify_eq_ok.mp run
      have loads := (Generator.leads_loadSlots child _ : Leads (Emits child) _).of_ok loading
      obtain ⟨begun, runs, finds⟩ := hosts.buildPart known apart (trusts compare rfl) entering loads
        calling none
      obtain ⟨onward, decides, leads, layout⟩ := begun.branchOn leading
      exact ⟨some ⟨child, blocks.header, opened, built, onward⟩,
        ⟨_, ⟨leads.completes (begun.ledOn onward), finds, layout.order _⟩, rfl⟩,
        .some ⟨rfl, values, result, ⟨entered, loading⟩, runs.ledOn onward, calling, decides⟩⟩

/-- **The end of a loop**: the exit is moved to the end unless it is given, and the generator goes on
there or is finished. -/
theorem Hosts.endLoop (hosts : site.Hosts base place) {given exit value : Value}
    {slots : List Operand}
    (run : (do
      if given.isGiven then Generator.finish place
      else
        Generator.moveToEnd site.reference exit
        Generator.moveTo place exit
      return Generator.slotsValue slots : Build Value) base = .ok value after) :
    value = Generator.slotsValue slots ∧ site.Progress (· = place) nothing base after ∧
      (∀ block, after.row block = base.row block) ∧
      (after.generator place = if given.isGiven then { base.generator place with isFinished := true }
        else { base.generator place with block := exit }) ∧
      if given.isGiven then after.order site.symbol = base.order site.symbol
      else ∀ moved, exit = blockValue moved →
        after.order site.symbol = (base.order site.symbol).erase moved.place ++ [moved.place] := by
  cases isGiven : given.isGiven with
  | true =>
      rw [isGiven] at run
      obtain ⟨_, ended, finishing, run⟩ := bind_eq_ok.mp run
      obtain rfl := modify_eq_ok.mp finishing
      obtain ⟨rfl, rfl⟩ := pure_eq_ok.mp run
      refine ⟨rfl, hosts.changeGenerator place _, fun block => row_changeGenerator .., ?_, rfl⟩
      rw [World.generator_changeGenerator, if_pos ⟨rfl, hosts.inside⟩]
      rfl
  | false =>
      rw [isGiven] at run
      obtain ⟨_, ordered, ordering, run⟩ := bind_eq_ok.mp run
      obtain ⟨_, ended, moving, run⟩ := bind_eq_ok.mp run
      obtain rfl := modify_eq_ok.mp moving
      obtain ⟨rfl, rfl⟩ := pure_eq_ok.mp run
      obtain ⟨seen, _, looked, ordering⟩ := bind_eq_ok.mp ordering
      obtain ⟨rfl, rfl⟩ := get_eq_ok.mp looked
      rw [hosts.stands] at ordering
      cases last : (base.blocks site.symbol).getLast? with
      | none =>
          rw [last] at ordering
          cases ordering
      | some final =>
          rw [last] at ordering
          obtain ⟨moves, generators, rows⟩ := hosts.toHolds.moveAfter ordering
          have later := hosts.later moves id
          refine ⟨rfl, ((moves.weaken (fun _ _ => False.elim) fun _ _ => id).trans
            (later.changeGenerator place _) (fun _ _ => id) fun _ _ => id),
            fun block => (row_changeGenerator ..).trans (rows block), ?_, fun moved isMoved => ?_⟩
          · rw [World.generator_changeGenerator, if_pos ⟨rfl, later.inside⟩,
              moves.generator place hosts.inside id]
            rfl
          · rw [isMoved] at ordering
            refine (hosts.toHolds.order_of_moveAfter ordering).order_eq hosts.nodup ?_
            rw [World.blocks, List.getLast?_map] at last
            obtain ⟨place, ends, rfl⟩ := Option.map_eq_some_iff.mp last
            exact ends

/-- **The blocks of a loop are laid** once its slots are set up. -/
theorem Hosts.laysLoop (hosts : site.Hosts before place) {initial given : Value}
    {parts : Generator.LoopParts} {slots : List Operand} {header : BlockRef}
    {blocks : Generator.LoopBlocks} {slotted entered laid : World}
    (storing : Generator.createSlots place (before.loopValues initial) before = .ok slots slotted)
    (heading : Generator.loopHeader place site.reference slotted = .ok header entered)
    (laying : Generator.loopBlocks site.reference header parts given entered = .ok blocks laid) :
    ∃ here forHeader forBody forIncrement forExit, ∀ body? compare? increment?,
      site.LaysLoop place initial parts given before
        ⟨slots, here, blocks, forHeader, forBody, forIncrement, forExit, body?, compare?, increment?⟩
        laid := by
  have stores := (Generator.leads_createSlots place _ : Leads (Emits place) _).of_ok storing
  have slotting := hosts.toHolds.emits stores
  have same := slotting.generator place hosts.inside id
  obtain ⟨here, forHeader, standing, enters⟩ := (hosts.later slotting id).loopHeader heading
  rw [same] at standing
  obtain ⟨rfl, forBody, forIncrement, forExit, bodyAt, incrementAt, exitAt, lays⟩ :=
    enters.progress.holds.loopBlocks laying
  have inside := hosts.standing here standing
  have known : entered.Has here := enters.progress.has (slotting.has inside)
  have earlier (block : BlockRef) (member : block ∈ forBody ++ forIncrement ++ forExit) :
      ¬ entered.Has block := (lays.fresh block member).not_has
  have ofHeader (block : BlockRef) (member : block ∈ forHeader) : site.IsNew before block :=
    slotting.isNew (enters.fresh block member)
  refine ⟨here, forHeader, forBody, forIncrement, forExit, fun body? compare? increment? =>
    { standing, header := ⟨slotted, storing, enters.reuses, enters.lays⟩, bodyAt, incrementAt, exitAt,
      fresh := ?fresh, nodup := ?nodup, enters := ?enters, progress := ?progress,
      endings := ?endings, has := ?has, apart := ?apart, distinct := ?distinct, order := ?order }⟩
  case fresh =>
    intro block member
    rcases List.mem_append.mp member with first | later
    · exact ofHeader block first
    · exact slotting.isNew (enters.progress.isNew (lays.fresh block later))
  case nodup =>
    refine List.nodup_append.mpr ⟨?_, lays.nodup, fun block first other later same => ?_⟩
    · rw [enters.lays]
      split
      · exact List.nodup_nil
      · exact List.nodup_singleton _
    · exact earlier other later (same ▸ enters.has_laid block first)
  case enters =>
    intro other
    exact lays.toProgress.endsBy (enters.ends other) known id
  case progress =>
    refine (slotting.weaken (fun _ _ => id) fun block _ here => ?_).trans
      (enters.progress.trans lays.toProgress (fun _ _ => id) fun _ _ => False.elim) (fun _ _ => id)
        fun _ _ => id
    rw [standing] at here
    cases here
    rfl
  case endings =>
    intro block
    rw [World.endings, lays.rows, ← World.endings, enters.endings, stores.endings_eq]
    rfl
  case has =>
    intro block member
    rcases List.mem_cons.mp member with rfl | member
    · exact lays.toProgress.has enters.has
    · rcases List.mem_append.mp member with first | later
      · exact lays.toProgress.has (enters.has_laid block first)
      · exact lays.has_laid block later
  case apart =>
    -- The entry is never reused, and a new header is not the entry.
    by_cases same : blocks.header = here
    · exact same ▸ (enters.reuses.mp same).2
    · refine hosts.entry_ne_of_isNew (ofHeader _ ?_)
      rw [enters.lays, if_neg same]
      exact List.mem_singleton_self _
  case distinct =>
    refine List.nodup_cons.mpr ⟨fun member => ?_, (List.nodup_append.mp lays.nodup).1⟩
    exact earlier _ (List.mem_append_left _ member) enters.has
  case order =>
    rw [lays.order, enters.order, stores.order, List.append_assoc, ← List.map_append]
    rfl

/-- Where parts of a loop may begin. -/
theorem LaysLoop.ready {initial given : Value} {parts : Generator.LoopParts} {circuit : Circuit}
    (lays : site.LaysLoop place initial parts given before circuit after)
    (hosts : site.Hosts before place) (block : BlockRef)
    (member : block ∈ circuit.blocks.header :: (circuit.forBody ++ circuit.forIncrement)) :
    after.Has block ∧ site.entry? ≠ some block := by
  rcases List.mem_cons.mp member with rfl | laid
  · exact ⟨lays.has _ List.mem_cons_self, lays.apart⟩
  · have laid : block ∈ circuit.laid :=
      List.mem_append_right _ (List.mem_append_left _ laid)
    exact ⟨lays.has block (List.mem_cons_of_mem _ laid), hosts.entry_ne_of_isNew (lays.fresh block laid)⟩

/-- **The parts of a loop are built** one after the other on the blocks that have been laid. -/
theorem LaysLoop.buildParts {initial given : Value} {parts : Generator.LoopParts} {circuit : Circuit}
    (lays : site.LaysLoop place initial parts given before circuit middle)
    (hosts : site.Hosts before place)
    (trustsBody : ∀ body, parts.body = some body → site.Trusts body)
    (trustsCompare : ∀ compare, parts.compare = some compare → site.Trusts compare)
    (trustsIncrement : ∀ increment, parts.increment = some increment → site.Trusts increment)
    (run : Generator.buildParts place parts circuit.blocks circuit.slots middle = .ok () after) :
    ∃ body? compare? increment?, site.Turns parts { circuit with body?, compare?, increment? } ∧
      site.BuildsEach middle { circuit with body?, compare?, increment? : Circuit }.parts after := by
  obtain ⟨_, bodied, building, run⟩ := bind_eq_ok.mp run
  obtain ⟨_, compared, comparing, incrementing⟩ := bind_eq_ok.mp run
  have ready := lays.ready hosts
  have hosts := hosts.later lays.progress id
  obtain ⟨body?, builds, body⟩ := hosts.buildBody trustsBody lays.bodyAt.isSome_eq
    (fun block begins => ready block
      (List.cons_subset_cons _ (List.subset_append_left _ _) (lays.bodyAt.mem begins))) building
  have bodies := builds.progress hosts.toHolds
  have hosts := hosts.later bodies id
  obtain ⟨header, apart⟩ := ready _ List.mem_cons_self
  obtain ⟨compare?, builds', compare⟩ :=
    hosts.buildCompare trustsCompare (bodies.has header) apart comparing
  have compares := builds'.progress hosts.toHolds
  have hosts := hosts.later compares id
  obtain ⟨increment?, builds'', increment⟩ := hosts.buildIncrement trustsIncrement
    lays.incrementAt.isSome_eq (fun block begins => by
      obtain ⟨known, other⟩ := ready block
        (List.cons_subset_cons _ (List.subset_append_right _ _) (lays.incrementAt.mem begins))
      exact ⟨compares.has (bodies.has known), other⟩) incrementing
  exact ⟨body?, compare?, increment?, ⟨body, compare, increment⟩,
    (builds.append builds').append builds''⟩

/-- A part that is there begins where it should. -/
theorem starts_of_rel {Related : Callback → Part → Prop} {callback? : Option Callback}
    {part? : Option Part} {start? : Option BlockRef} (related : Option.Rel Related callback? part?)
    (isSome : start?.isSome = callback?.isSome)
    (begins : ∀ callback part, Related callback part → start? = some part.start) :
    part?.toList.map Part.start = start?.toList := by
  cases related with
  | some known =>
      rw [begins _ _ known]
      rfl
  | none =>
      cases start? with
      | none => rfl
      | some start => cases isSome

/-- Where the parts of a loop begin. -/
theorem Turns.starts_eq {parts : Generator.LoopParts} {circuit : Circuit}
    (turns : site.Turns parts circuit) (body : circuit.blocks.body.isSome = parts.body.isSome)
    (increment : circuit.blocks.increment.isSome = parts.increment.isSome) :
    circuit.parts.map Part.start = circuit.blocks.body.toList ++
      (if parts.compare.isSome then [circuit.blocks.header] else []) ++
        circuit.blocks.increment.toList := by
  have first := starts_of_rel turns.body body fun _ _ related => related.1
  have third := starts_of_rel turns.increment increment fun _ _ related => related.1
  have second : circuit.compare?.toList.map Part.start =
      if parts.compare.isSome then [circuit.blocks.header] else [] := by
    have compare := turns.compare
    revert compare
    generalize parts.compare = callback?
    generalize circuit.compare? = part?
    rintro (⟨header, -⟩ | _)
    · rw [header]
      rfl
    · rfl
  rw [Circuit.parts, List.map_append, List.map_append, first, second, third]

/-- Where parts of a loop begin is the header or what is laid for them. -/
theorem LaidOut.mem_of_starts {initial given : Value} {parts : Generator.LoopParts}
    {circuit : Circuit} (laid : site.LaidOut place initial parts given before circuit)
    {block : BlockRef} (begins : block ∈ circuit.blocks.body.toList ++
      (if parts.compare.isSome then [circuit.blocks.header] else []) ++
        circuit.blocks.increment.toList) :
    block ∈ circuit.blocks.header :: (circuit.forBody ++ circuit.forIncrement) := by
  rcases List.mem_append.mp begins with first | increment
  · rcases List.mem_append.mp first with body | compare
    · exact List.cons_subset_cons _ (List.subset_append_left _ _)
        (laid.bodyAt.mem (Option.mem_toList.mp body))
    · split at compare
      · exact List.mem_singleton.mp compare ▸ List.mem_cons_self
      · cases compare
  · exact List.cons_subset_cons _ (List.subset_append_right _ _)
      (laid.incrementAt.mem (Option.mem_toList.mp increment))

/-- Each part of a loop begins at the header or at what is laid for it. -/
theorem LaidOut.mem_of_start {initial given : Value} {parts : Generator.LoopParts}
    {circuit : Circuit} (laid : site.LaidOut place initial parts given before circuit)
    (turns : site.Turns parts circuit) {part : Part} (member : part ∈ circuit.parts) :
    part.start ∈ circuit.blocks.header :: (circuit.forBody ++ circuit.forIncrement) := by
  have start := List.mem_map_of_mem (f := Part.start) member
  rw [turns.starts_eq laid.bodyAt.isSome_eq laid.incrementAt.isSome_eq] at start
  exact laid.mem_of_starts start

/-- Only the header may have been there before, and only if it is the block at which the generator
is. -/
theorem LaidOut.eq_here {initial given : Value} {parts : Generator.LoopParts} {circuit : Circuit}
    (laid : site.LaidOut place initial parts given before circuit) {block : BlockRef}
    (member : block ∈ circuit.blocks.header :: (circuit.forBody ++ circuit.forIncrement))
    (known : before.Has block) : block = circuit.here ∧ circuit.blocks.header = circuit.here := by
  obtain ⟨slotted, -, -, own⟩ := laid.header
  have missing (new : block ∈ circuit.laid) : False := (laid.fresh block new).not_has known
  rcases List.mem_cons.mp member with rfl | further
  · by_cases same : circuit.blocks.header = circuit.here
    · exact ⟨same, same⟩
    · refine (missing (List.mem_append_left _ ?_)).elim
      rw [own, if_neg same]
      exact List.mem_singleton_self _
  · exact (missing (List.mem_append_right _ (List.mem_append_left _ further))).elim

/-- What is related to something is there. -/
theorem exists_of_rel {Related : Callback → Part → Prop} {callback? : Option Callback} {part : Part}
    (related : Option.Rel Related callback? (some part)) :
    ∃ callback ∈ callback?.toList, Related callback part := by
  cases related with
  | some known => exact ⟨_, List.mem_singleton_self _, known⟩

/-- A callback has built each of the parts. -/
theorem Turns.builds {parts : Generator.LoopParts} {circuit : Circuit}
    (turns : site.Turns parts circuit) {part : Part} (member : part ∈ circuit.parts) :
    ∃ callback ∈ parts.callbacks, ∃ values,
      site.BuildsPart circuit.blocks callback values part := by
  rcases List.mem_append.mp member with first | increment
  · rcases List.mem_append.mp first with body | compare
    · have related := turns.body
      rw [Option.mem_toList.mp body] at related
      obtain ⟨callback, known, -, ⟨values, -, builds⟩, -⟩ := exists_of_rel related
      exact ⟨callback, List.mem_append_left _ (List.mem_append_left _ known), values, builds⟩
    · have related := turns.compare
      rw [Option.mem_toList.mp compare] at related
      obtain ⟨callback, known, -, values, -, -, builds, -⟩ := exists_of_rel related
      exact ⟨callback, List.mem_append_left _ (List.mem_append_right _ known), values, builds⟩
  · have related := turns.increment
    rw [Option.mem_toList.mp increment] at related
    obtain ⟨callback, known, -, builds, -⟩ := exists_of_rel related
    exact ⟨callback, List.mem_append_right _ known, _, builds⟩

/-- The generator of a part of a loop steers it. -/
theorem Built.steers {blocks : Generator.LoopBlocks} {callback : Callback} {values : List Value}
    (built : site.Built part) (builds : site.BuildsPart blocks callback values part) :
    site.Steers blocks part := by
  refine ⟨fun world after value worked unfinished run => ?_,
    fun world after value worked unfinished run => ?_⟩
  · have branching := branchTo_of_leaveLoop unfinished run
    obtain ⟨_, _, record⟩ := worked.record
    rw [record, builds.begins] at branching
    exact (worked.hosts built.hosts).branchTo_endsBy branching
  · have branching := branchTo_of_nextTurn unfinished run
    obtain ⟨_, _, record⟩ := worked.record
    rw [record, builds.begins] at branching
    exact (worked.hosts built.hosts).branchTo_endsBy branching

/-- **A loop is closed** once its parts are built. -/
theorem LaysLoop.wires {initial given value : Value} {parts : Generator.LoopParts}
    {circuit : Circuit} {laid built : World}
    (lays : site.LaysLoop place initial parts given before circuit laid)
    (hosts : site.Hosts before place) (turns : site.Turns parts circuit)
    (builds : site.BuildsEach laid circuit.parts built)
    (run : (do
      if given.isGiven then Generator.finish place
      else
        Generator.moveToEnd site.reference circuit.blocks.exit
        Generator.moveTo place circuit.blocks.exit
      return Generator.slotsValue circuit.slots : Build Value) built = .ok value after) :
    site.Advances place before after ∧ site.WiresLoop place initial parts given before circuit after ∧
      value = Generator.slotsValue circuit.slots := by
  have begins {part : Part} (member : part ∈ circuit.parts) := lays.mem_of_start turns member
  have building := builds.progress lays.progress.holds
  -- The parts may only begin at a block that was there if the header is the block of the generator.
  have worked : site.Progress nothing (· = circuit.here) before built :=
    lays.progress.trans building (fun _ _ => id) fun block known claimed => by
      obtain ⟨part, member, rfl⟩ := claimed
      exact (lays.eq_here (begins member) known).1
  have here := hosts.standing circuit.here lays.standing
  obtain ⟨rfl, ending, rows, record, order⟩ := (hosts.later worked id).endLoop run
  rw [worked.generator place hosts.inside id] at record
  have exits (free : ¬ given.isGiven = true) :
      ∃ block, circuit.blocks.exit = blockValue block ∧ block ∈ circuit.laid := by
    obtain ⟨block, exit, member⟩ := lays.exitAt.exists_block free
    exact ⟨block, exit, List.mem_append_right _ (List.mem_append_right _ member)⟩
  have has (block : BlockRef) (member : block ∈ circuit.laid) : after.Has block :=
    ending.has (building.has (lays.has block (List.mem_cons_of_mem _ member)))
  have threads := builds.threads
  rw [lays.order] at threads
  have settles (part : Part) (member : part ∈ circuit.parts) :=
    builds.settled lays.progress.holds (by
      rw [turns.starts_eq lays.bodyAt.isSome_eq lays.incrementAt.isSome_eq]
      exact lays.bodyAt.nodup_starts lays.incrementAt lays.distinct)
      (fun part member => (lays.ready hosts _ (begins member)).1) part member
  have closed : site.Progress (· = place) (· = circuit.here) before after :=
    (worked.weaken (fun _ _ => False.elim) fun _ _ => id).trans ending (fun _ _ => id)
      fun _ _ => False.elim
  refine ⟨closed.advances_to lays.standing record fun free => ?fresh,
    { toLaidOut := lays.toLaidOut, toTurns := turns, enters := ?enters, has, settled := ?settled,
      steers := ?steers, endings := ?endings, record, order := ⟨_, threads, ?order⟩ }, rfl⟩
  case fresh =>
    obtain ⟨block, exit, member⟩ := exits free
    exact ⟨block, exit, lays.fresh block member, has block member⟩
  case enters =>
    intro other
    refine ending.endsBy (building.endsBy (lays.enters other) (lays.progress.has here) ?_)
      (worked.has here) id
    rintro ⟨part, member, same⟩
    exact other (lays.eq_here (begins member) (same ▸ here)).2
  case settled =>
    intro part member
    obtain ⟨built, anew, -, settled⟩ := settles part member
    refine ⟨built, settled.later built ending (fun same => ?_) fun _ _ => id⟩
    exact Nat.not_lt.mpr anew (same ▸ Nat.lt_of_lt_of_le hosts.inside lays.progress.generators)
  case steers =>
    intro part member
    obtain ⟨callback, -, values, turn⟩ := turns.builds member
    exact (settles part member).1.steers turn
  case endings =>
    intro block
    rw [World.endings, rows, ← World.endings, builds.endings, lays.endings]
  case order =>
    split
    next isGiven =>
      rw [if_pos isGiven] at order
      exact order
    next free =>
      rw [if_neg free] at order
      obtain ⟨block, exit, -⟩ := exits free
      exact ⟨block, exit, order block exit⟩

/-- **Loops wire what they should.** -/
theorem Hosts.loop (hosts : site.Hosts before place)
    (unfinished : (before.generator place).isFinished = false) {initial given value : Value}
    {parts : Generator.LoopParts}
    (trustsBody : ∀ body, parts.body = some body → site.Trusts body)
    (trustsCompare : ∀ compare, parts.compare = some compare → site.Trusts compare)
    (trustsIncrement : ∀ increment, parts.increment = some increment → site.Trusts increment)
    (run : Generator.loop place initial parts given before = .ok value after) :
    site.Advances place before after ∧ ∃ circuit,
      site.WiresLoop place initial parts given before circuit after ∧
        value = Generator.slotsValue circuit.slots := by
  have run := Generator.unlessFinished_ok unfinished run
  cases isEmpty : parts.isEmpty with
  | true =>
      rw [isEmpty] at run
      obtain ⟨_, _, rejecting, run⟩ := bind_eq_ok.mp run
      cases rejecting
  | false =>
      rw [isEmpty, if_neg Bool.false_ne_true] at run
      obtain ⟨seen, _, looked, run⟩ := bind_eq_ok.mp run
      obtain ⟨rfl, rfl⟩ := get_eq_ok.mp looked
      obtain ⟨seen, _, looked, run⟩ := bind_eq_ok.mp run
      obtain ⟨rfl, rfl⟩ := get_eq_ok.mp looked
      rw [hosts.function] at run
      obtain ⟨slots, slotted, storing, run⟩ := bind_eq_ok.mp run
      obtain ⟨header, entered, heading, run⟩ := bind_eq_ok.mp run
      obtain ⟨blocks, laid, laying, run⟩ := bind_eq_ok.mp run
      obtain ⟨_, built, building, run⟩ := bind_eq_ok.mp run
      obtain ⟨here, forHeader, forBody, forIncrement, forExit, lays⟩ :=
        hosts.laysLoop storing heading laying
      obtain ⟨body?, compare?, increment?, turns, builds⟩ :=
        (lays none none none).buildParts hosts trustsBody trustsCompare trustsIncrement building
      obtain ⟨advances, wires, same⟩ := (lays body? compare? increment?).wires hosts turns builds run
      exact ⟨advances, _, wires, same⟩

/-! ## Where a loop goes on -/

variable {initial given value : Value} {callbacks : Generator.LoopParts} {circuit : Circuit}

/-- Loops wire what they should if their callbacks work properly. -/
theorem Hosts.loop_of_confines (hosts : site.Hosts before place)
    (unfinished : (before.generator place).isFinished = false)
    (confines : ∀ callback ∈ callbacks.callbacks, site.Confines callback)
    (run : Generator.loop place initial callbacks given before = .ok value after) :
    site.Advances place before after ∧ ∃ circuit,
      site.WiresLoop place initial callbacks given before circuit after ∧
        value = Generator.slotsValue circuit.slots :=
  have trusts (callback : Callback) (known : callback ∈ callbacks.callbacks) : site.Trusts callback :=
    (confines callback known).trusts
  hosts.loop unfinished
    (fun body chosen => trusts body (by simp [Generator.LoopParts.callbacks, chosen]))
    (fun compare chosen => trusts compare (by simp [Generator.LoopParts.callbacks, chosen]))
    (fun increment chosen => trusts increment (by simp [Generator.LoopParts.callbacks, chosen])) run

/-- The callbacks of a loop find all blocks that have been laid, and leave them in order. -/
theorem WiresLoop.order_subset
    (wires : site.WiresLoop place initial callbacks given before circuit after)
    (confines : ∀ callback ∈ callbacks.callbacks, site.Confines callback) {final : List Nat}
    (threads : Threads site.symbol (before.order site.symbol ++ circuit.laid.map BlockRef.place)
      circuit.parts final) :
    before.order site.symbol ++ circuit.laid.map BlockRef.place ⊆ final ∧
      ∀ part ∈ circuit.parts, before.order site.symbol ++ circuit.laid.map BlockRef.place ⊆
        part.opened.order site.symbol := by
  refine threads.subset fun part member => ?_
  obtain ⟨callback, known, values, builds⟩ := wires.toTurns.builds member
  obtain ⟨_, calling⟩ := builds.calls
  exact (confines callback known _ _ _ _ _ (wires.settled part member).1.hosts calling).order

/-- **The exit of a loop has not ended**, unless it was given. -/
theorem WiresLoop.endings_exit
    (wires : site.WiresLoop place initial callbacks given before circuit after)
    (hosts : site.Hosts before place)
    (confines : ∀ callback ∈ callbacks.callbacks, site.Confines callback) {exit : BlockRef}
    (isExit : circuit.blocks.exit = blockValue exit) (laid : exit ∈ circuit.forExit) :
    after.endings exit = [] := by
  obtain ⟨final, threads, -⟩ := wires.order
  have member : exit ∈ circuit.laid :=
    List.mem_append_right _ (List.mem_append_right _ laid)
  have new := wires.fresh exit member
  have missing : exit ≠ circuit.here := fun same =>
    new.not_has (same ▸ hosts.standing circuit.here wires.standing)
  have parts : circuit.parts.flatMap (·.edges exit) = [] := by
    refine List.flatMap_eq_nil_iff.mpr fun part known => ?_
    have inside := (wires.order_subset confines threads).2 part known
      (List.mem_append_right _ (List.mem_map_of_mem member))
    refine (wires.settled part known).1.edges_eq_nil new.routine inside fun same => ?_
    -- The exit is laid apart from all blocks at which parts begin.
    have start := wires.toLaidOut.mem_of_start wires.toTurns known
    rw [← same] at start
    obtain ⟨-, later, apart⟩ := List.nodup_append.mp wires.nodup
    rcases List.mem_cons.mp start with rfl | start
    · obtain ⟨-, -, -, forHeader⟩ := wires.header
      rw [if_neg missing] at forHeader
      exact apart _ (forHeader ▸ List.mem_singleton_self _) _ (List.mem_append_right _ laid) rfl
    · exact (List.nodup_append.mp later).2.2 _ start _ laid rfl
  rw [wires.endings, World.endings_of_not_has new.not_has, parts, Circuit.entering,
    if_neg fun claimed => missing claimed.1]
  rfl

/-- **A loop leaves its generator where it may go on**, and all blocks in order. -/
theorem Hosts.proceeds_loop (hosts : site.Hosts before place)
    (unfinished : (before.generator place).isFinished = false)
    (confines : ∀ callback ∈ callbacks.callbacks, site.Confines callback)
    (run : Generator.loop place initial callbacks given before = .ok value after) :
    site.Proceeds place before after := by
  obtain ⟨advances, circuit, wires, -⟩ := hosts.loop_of_confines unfinished confines run
  obtain ⟨final, threads, order⟩ := wires.order
  have kept : before.order site.symbol ⊆ final :=
    List.Subset.trans (List.subset_append_left _ _) (wires.order_subset confines threads).1
  have record := wires.record
  cases isGiven : given.isGiven with
  | true =>
      rw [if_pos isGiven] at order record
      exact advances.proceeds_of_isFinished (by rw [record]) (order ▸ kept)
  | false =>
      have free := Bool.eq_false_iff.mp isGiven
      rw [if_neg free] at order record
      obtain ⟨exit, isExit, laid⟩ := wires.exitAt.exists_block free
      obtain ⟨_, same, order⟩ := order
      rw [isExit] at same
      cases same
      refine advances.proceeds_of_block (by rw [record]; exact isExit)
        (wires.endings_exit hosts confines isExit laid) fun other member => ?_
      rw [order]
      by_cases same : other = exit.place
      · exact List.mem_append_right _ (same ▸ List.mem_singleton_self _)
      · exact List.mem_append_left _ ((List.mem_erase_of_ne same).mpr (kept member))

end Construction

end StructuredIR
