import StructuredIR.Proofs.Wiring.Parts

/-! # What conditionals wire

A conditional builds its arms one after the other and then ends the block at which its generator is.

* **`Diamond`** is what comes up with a conditional, and **`Construction.WiresConditional`** says what is
  known of it: where the block forks to, where the arms meet, what they end by, and that there are no
  other terminators.
* **`Construction.MeetsAt`** says where the arms meet.
* **`Construction.Hosts.conditional`**: a conditional whose callbacks work with their own generators only
  wires this, and changes no other generator and no other block that was there. -/

namespace StructuredIR

open Build (Leads bind_eq_ok get_eq_ok map_eq_ok modify_eq_ok pure_eq_ok)
open Generator (blockValue branchTarget conditionType)

/-- **What comes up with a conditional.** -/
structure Diamond where
  /-- The block that the conditional ends. -/
  here : BlockRef
  /-- The condition. -/
  tested : Operand
  /-- The first arm. -/
  first : Part
  /-- The second arm, if there is one. -/
  second? : Option Part
  /-- Where the arms meet. -/
  join : Value
  /-- The blocks that are laid for that between the arms. -/
  laid : List Nat

namespace Diamond

variable (diamond : Diamond)

/-- The arms. -/
def arms : List Part :=
  diamond.first :: diamond.second?.toList

/-- The arm that is built last. -/
def last : Part :=
  diamond.second?.getD diamond.first

/-- **The conditional branch** leads to where the first arm begins, and to where the second one begins
or, if there is none, to where they meet. -/
def fork : Operation :=
  .branchIf diamond.tested (blockValue diamond.first.start)
    (diamond.second?.elim diamond.join fun part => blockValue part.start)

/-- The order of the blocks once all arms are built. -/
def order (symbol : SymbolRef) : List Nat :=
  match diamond.second? with
  | none => diamond.first.built.order symbol ++ diamond.laid
  | some second => second.built.order symbol

/-- The arm that is built last is one of the arms. -/
theorem last_mem_arms : diamond.last ∈ diamond.arms := by
  obtain ⟨here, tested, first, second?, join, laid⟩ := diamond
  cases second? with
  | none => exact List.mem_singleton_self first
  | some second => exact List.mem_cons_of_mem first (List.mem_singleton_self second)

end Diamond

namespace Construction

variable (site : Construction)

/-- **Where the arms of a conditional meet** once the first one is built: at what is given, or at the
block that the arm has left open if that is empty, or at a new block. With it comes what leads the
arm there, unless it is there already, and the blocks that are laid for it. -/
inductive MeetsAt (part : Part) (given : Value) : Value → Option Operation → List Nat → Prop where
  /-- The arms meet at what is given. -/
  | given : given.isGiven = true →
      MeetsAt part given given (some (.branch (branchTarget part.built given))) []
  /-- They meet at the empty block that the arm has left open. -/
  | own (own : BlockRef) : given.isGiven = false → part.open? = some own → part.built.row own = [] →
      MeetsAt part given (blockValue own) none []
  /-- They meet at a new block. -/
  | anew : given.isGiven = false → (∀ own, part.open? = some own → part.built.row own ≠ []) →
      MeetsAt part given (blockValue (site.next part.built))
        (some (.branch (blockValue (site.next part.built)))) [(site.next part.built).place]

/-- **An arm has been led to where the arms meet.** -/
structure LeadsToMeet (part : Part) (given join : Value) (onward : Option Operation)
    (laid : List Nat) (after : World) : Prop where
  /-- The arms meet there. -/
  meets : site.MeetsAt { part with onward } given join onward laid
  /-- The arm has been led there. -/
  leads : site.LeadsOn { part with onward } after
  /-- What has been laid is behind all other blocks. -/
  order : after.order site.symbol = part.built.order site.symbol ++ laid
  /-- The meeting place is there, if it was not given. -/
  has (block : BlockRef) : join = blockValue block → given.isGiven = false → after.Has block

/-- **An arm** that a callback has built on a new block behind all others. -/
structure IsArm (base : World) (order : List Nat) (body : Callback) (loopBlock loopExit : Value)
    (part : Part) : Prop where
  /-- The callback has built it. -/
  runs : site.Runs body [] loopBlock loopExit part
  /-- The block is new. -/
  isNew : site.IsNew base part.start
  /-- The block is behind all others. -/
  order : part.opened.order site.symbol = order ++ [part.start.place]

/-- **The arms of a conditional have been built**, and nothing else has happened. -/
structure BuildsArms (before : World) (diamond : Diamond) (after : World) : Prop where
  /-- The arms have come up, and nothing more happens to them. -/
  arms (arm : Part) : arm ∈ diamond.arms →
    site.Built arm ∧ before.generators.length ≤ arm.place ∧
      (∀ block, before.Has block → ¬ site.Owns arm block) ∧ site.Settled arm after
  /-- What was there has not changed. -/
  progress : site.Progress nothing nothing before after
  /-- The terminators that have come up are those of the arms. -/
  endings (block : BlockRef) : after.endings block =
    before.endings block ++ diamond.arms.flatMap (·.edges block)
  /-- The blocks are in the order in which they have come up. -/
  order : after.order site.symbol = diamond.order site.symbol
  /-- The generator of the last arm is where its callback has left it. -/
  last : (after.generator diamond.last.place).block =
    (diamond.last.built.generator diamond.last.place).block

/-- **The arms of a conditional** and where they meet. -/
structure Arms (place : GeneratorId) (condition : Value) (thenBody : Callback)
    (elseBody : Option Callback) (given : Value) (before : World) (diamond : Diamond) : Prop where
  /-- The condition is what it is given. -/
  tests : ∃ coerced, Generator.coerce place condition (some conditionType) before =
    .ok diamond.tested coerced
  /-- The first callback builds the first arm. -/
  thenArm : site.IsArm before (before.order site.symbol) thenBody (before.generator place).loopBlock
    (before.generator place).loopExit diamond.first
  /-- The arms meet somewhere. -/
  meets : site.MeetsAt diamond.first given diamond.join diamond.first.onward diamond.laid
  /-- The second callback, if there is one, builds the second arm, which is led there. -/
  elseArm : Option.Rel (fun body part =>
    site.IsArm diamond.first.built (diamond.first.built.order site.symbol ++ diamond.laid) body
      (before.generator place).loopBlock (before.generator place).loopExit part ∧
    part.onward = some (.branch (branchTarget part.built diamond.join))) elseBody diamond.second?

/-- **The arms of a conditional have been built** from what it is given. -/
structure LaysArms (place : GeneratorId) (condition : Value) (thenBody : Callback)
    (elseBody : Option Callback) (given : Value) (before : World) (diamond : Diamond)
    (after : World) : Prop
    extends site.Arms place condition thenBody elseBody given before diamond,
      site.BuildsArms before diamond after where
  /-- A meeting place that is not given is a new block. -/
  joined : ¬ given.isGiven = true → ∃ block, diamond.join = blockValue block ∧
    site.IsNew before block ∧ after.Has block

/-- **What a conditional wires**: the block at which the generator is forks to the arms, the arms are
led to where they meet, and there is nothing else that ends a block but what the callbacks have
added. -/
structure WiresConditional (place : GeneratorId) (condition : Value) (thenBody : Callback)
    (elseBody : Option Callback) (given : Value) (before : World) (diamond : Diamond)
    (after : World) : Prop
    extends site.Arms place condition thenBody elseBody given before diamond where
  /-- The generator is at the block. -/
  standing : (before.generator place).block = blockValue diamond.here
  /-- **Each arm ends by what leads it there**, if it is left open, and is otherwise as its callback has
  left it. Its generator is finished. -/
  settled (arm : Part) : arm ∈ diamond.arms → site.Built arm ∧ site.Settled arm after
  /-- **The block ends by the conditional branch.** -/
  forks : after.EndsBy diamond.here diamond.fork
  /-- **There are no other terminators.** -/
  endings (block : BlockRef) : after.endings block = before.endings block ++
    diamond.arms.flatMap (·.edges block) ++ if block = diamond.here then [diamond.fork] else []
  /-- **The generator goes on where the arms meet**, or is finished if that was given. -/
  record : after.generator place =
    if given.isGiven then { before.generator place with isFinished := true }
    else { before.generator place with block := diamond.join }
  /-- **The meeting place is moved right behind the block at which the last arm ends**, unless it was
  given. -/
  order : if given.isGiven then after.order site.symbol = diamond.order site.symbol
    else ∃ join behind, diamond.join = blockValue join ∧
      (diamond.last.built.generator diamond.last.place).block = blockValue behind ∧
        MovedBehind join.place behind.place (diamond.order site.symbol) (after.order site.symbol)

/-- **The block of the generator has been ended** by an operation, and where the arms meet has been put
behind a generator, unless it is given. -/
structure EndsBlock (place behind : GeneratorId) (given exit : Value) (operation : Operation)
    (here : BlockRef) (base after : World) : Prop where
  /-- The generator is at the block. -/
  standing : (base.generator place).block = blockValue here
  /-- Of what was there only the generator and the block have changed. -/
  progress : site.Progress (· = place) (· = here) base after
  /-- The block ends by the operation. -/
  ends : after.EndsBy here operation
  /-- There are no other terminators. -/
  endings (block : BlockRef) :
    after.endings block = base.endings block ++ if block = here then [operation] else []
  /-- The generator goes on where the arms meet, or is finished if that is given. -/
  record : after.generator place =
    if given.isGiven then { base.generator place with isFinished := true }
    else { base.generator place with block := exit }
  /-- Where the arms meet is right behind the generator, unless it is given. -/
  order : if given.isGiven then after.order site.symbol = base.order site.symbol
    else ∀ moved anchor, exit = blockValue moved → (base.generator behind).block = blockValue anchor →
      MovedBehind moved.place anchor.place (base.order site.symbol) (after.order site.symbol)

variable {site} {before middle after base : World} {place : GeneratorId} {part : Part}

/-- The arms meet at a new block, to which the first one is led. -/
theorem Begun.meetsAnew (begun : site.Begun base part) {given : Value} {name : String}
    {block : BlockRef} (free : given.isGiven = false)
    (busy : ∀ own, part.open? = some own → part.built.row own ≠ [])
    (appending : Function.appendNamed site.reference name part.built = .ok block middle)
    (leading : Generator.leadTo part.place (blockValue block) middle = .ok () after) :
    ∃ onward laid, site.LeadsToMeet part given (blockValue block) onward laid after := by
  obtain ⟨rfl, adds⟩ := begun.advances.progress.holds.appendNamed_ok appending
  obtain ⟨progress, known⟩ := begun.advances.progress.holds.addsBlock adds
  obtain ⟨leads, layout⟩ := (begun.ledOn (some (.branch (blockValue (site.next part.built))))).leadTo
    rfl progress adds.row leading
  refine ⟨some (.branch (blockValue (site.next part.built))), [(site.next part.built).place],
    .anew free busy, leads, ?_, fun other same _ => ?_⟩
  · rw [layout.order, adds.order, if_pos rfl]
    rfl
  · cases same
    rw [World.Has, layout.blockCount]
    exact known

/-- The arms meet at the empty block that the first one has left open. -/
theorem Begun.meetsOwn (begun : site.Begun base part) {given : Value} {own : BlockRef}
    (free : given.isGiven = false) (opened : part.open? = some own) (empty : part.built.row own = []) :
    ∃ onward laid, site.LeadsToMeet part given (blockValue own) onward laid part.built := by
  refine ⟨none, [], .own own free opened empty, (begun.ledOn none).leadsOn_of_none (.inr rfl),
    (List.append_nil _).symm, fun block same _ => ?_⟩
  cases same
  exact begun.has (begun.owns_of_open opened)

/-- The arms meet where they are told to. -/
theorem Begun.meetsGiven (begun : site.Begun base part) {given : Value} (isGiven : given.isGiven = true)
    (leading : Generator.leadTo part.place given part.built = .ok () after) :
    ∃ onward laid, site.LeadsToMeet part given given onward laid after := by
  obtain ⟨leads, layout⟩ := (begun.ledOn (some (.branch (branchTarget part.built given)))).leadTo
    rfl begun.advances.progress.holds.refl (fun _ => rfl) leading
  refine ⟨_, _, .given isGiven, leads, ?_, fun _ _ free => ?_⟩
  · rw [layout.order, List.append_nil]
  · rw [isGiven] at free
    cases free

/-- **The meeting place** is where the arm is led, if it is not there already. -/
theorem Begun.meetingPlace (begun : site.Begun base part) {given join : Value}
    (run : Generator.meetingPlace part.place site.reference given part.built = .ok join after) :
    ∃ onward laid, site.LeadsToMeet part given join onward laid after := by
  obtain ⟨seen, _, looked, run⟩ := bind_eq_ok.mp run
  obtain ⟨rfl, rfl⟩ := get_eq_ok.mp looked
  cases isGiven : given.isGiven with
  | true =>
      rw [isGiven] at run
      obtain ⟨own?, _, none, run⟩ := bind_eq_ok.mp run
      cases none
      obtain ⟨exit, _, giving, run⟩ := bind_eq_ok.mp run
      cases giving
      obtain ⟨_, led, leading, run⟩ := bind_eq_ok.mp run
      obtain ⟨rfl, rfl⟩ := pure_eq_ok.mp run
      exact begun.meetsGiven isGiven leading
  | false =>
      -- A new block is laid unless the arm has left an empty block open.
      obtain ⟨here, standing⟩ := begun.exists_block
      rw [isGiven] at run
      cases isFinished : (part.built.generator part.place).isFinished with
      | true =>
          have closed : part.open? = none := by rw [Part.open?, isFinished, if_pos rfl]
          rw [isFinished] at run
          obtain ⟨own?, _, none, run⟩ := bind_eq_ok.mp run
          cases none
          obtain ⟨_, added, adding, run⟩ := bind_eq_ok.mp run
          obtain ⟨block, appending, rfl⟩ := map_eq_ok.mp adding
          obtain ⟨_, led, leading, run⟩ := bind_eq_ok.mp run
          obtain ⟨rfl, rfl⟩ := pure_eq_ok.mp run
          refine begun.meetsAnew isGiven (fun own opened => ?_) appending leading
          rw [closed] at opened
          cases opened
      | false =>
          have opened := Part.open_of_block isFinished standing
          rw [isFinished] at run
          obtain ⟨own?, _, positioned, run⟩ := bind_eq_ok.mp run
          obtain ⟨own, positioning, rfl⟩ := map_eq_ok.mp positioned
          rw [Generator.position_of_block standing] at positioning
          cases positioning
          obtain ⟨seen, _, looked, run⟩ := bind_eq_ok.mp run
          obtain ⟨rfl, rfl⟩ := get_eq_ok.mp looked
          cases isEmpty : (part.built.block here).instructions.isEmpty with
          | true =>
              rw [isEmpty] at run
              cases run
              exact begun.meetsOwn isGiven opened (List.isEmpty_iff.mp isEmpty)
          | false =>
              rw [isEmpty] at run
              obtain ⟨block, added, appending, run⟩ := bind_eq_ok.mp run
              obtain ⟨_, led, leading, run⟩ := bind_eq_ok.mp run
              obtain ⟨rfl, rfl⟩ := pure_eq_ok.mp run
              refine begun.meetsAnew isGiven (fun own claimed empty => ?_) appending leading
              rw [opened] at claimed
              cases claimed
              rw [World.row] at empty
              rw [empty] at isEmpty
              cases isEmpty

/-- A meeting place that is not given is a new block. -/
theorem MeetsAt.exists_block {given join : Value} {onward : Option Operation} {laid : List Nat}
    (meets : site.MeetsAt part given join onward laid) (begun : site.Begun base part)
    (new : site.IsNew base part.start) (free : given.isGiven = false) :
    ∃ block, join = blockValue block ∧ site.IsNew base block := by
  cases meets with
  | given isGiven => exact absurd (free.symm.trans isGiven) Bool.false_ne_true
  | own block _ opened =>
      refine ⟨block, rfl, ?_⟩
      rcases begun.owns_of_open opened with rfl | ⟨fresh, -⟩
      · exact new
      · exact begun.opens.isNew fresh
  | anew =>
      exact ⟨_, rfl, begun.opens.isNew (begun.advances.progress.isNew (isNew_next part.built))⟩

/-- **An arm is built** on a new block. -/
theorem Hosts.buildArm (hosts : site.Hosts base place) {name : String} {body : Callback}
    {arm : GeneratorId} (trusts : site.Trusts body)
    (run : Generator.buildArm place site.reference name body base = .ok arm after) :
    ∃ part : Part, part.place = arm ∧ part.built = after ∧ site.Begun base part ∧
      site.IsArm base (base.order site.symbol) body (base.generator place).loopBlock
        (base.generator place).loopExit part := by
  obtain ⟨block, added, appending, run⟩ := bind_eq_ok.mp run
  obtain ⟨child, opened, opening, run⟩ := bind_eq_ok.mp run
  obtain ⟨value, built, calling, run⟩ := bind_eq_ok.mp run
  obtain ⟨rfl, rfl⟩ := pure_eq_ok.mp run
  obtain ⟨rfl, adds⟩ := hosts.toHolds.appendNamed_ok appending
  obtain ⟨adding, known⟩ := hosts.toHolds.addsBlock adds
  obtain ⟨rfl, rfl⟩ := (hosts.later adding id).childAt_ok opening
  rw [adding.generator place hosts.inside id] at calling
  have new := site.isNew_next base
  let opened := added.joined (site.startingAt (site.next base) (base.generator place).loopBlock
    (base.generator place).loopExit)
  let part : Part := ⟨added.generators.length, site.next base, opened, built, none⟩
  obtain ⟨begun, runs⟩ : site.Begun added part ∧ site.Runs body [] _ _ part :=
    adding.holds.begun known (hosts.entry_ne_of_isNew new) rfl (IsEffect.refl opened) trusts calling
  refine ⟨part, rfl, rfl, begun.since (adding.idles adds.row), runs, new, ?_⟩
  refine (adds.order site.symbol).trans ?_
  rw [if_pos rfl]
  rfl

/-- A branch to the generator of a complete part is a branch to where the part begins. -/
theorem Completes.start_eq (completes : site.Completes base part after) {callback : Callback}
    {arguments : List Value} {loopBlock loopExit : Value}
    (runs : site.Runs callback arguments loopBlock loopExit part) :
    (after.generator part.place).start = blockValue part.start := by
  obtain ⟨_, _, worked⟩ := completes.advances.record
  obtain ⟨_, record⟩ := completes.record
  rw [record, worked, runs.begins]
  rfl

/-- The generator of a complete part is where its callback has left it. -/
theorem Completes.block_eq (completes : site.Completes base part after) :
    (after.generator part.place).block = (part.built.generator part.place).block := by
  obtain ⟨_, record⟩ := completes.record
  rw [record]

/-- **The second arm** is led to where the arms meet. -/
theorem Hosts.buildElse (hosts : site.Hosts base place) {arm : GeneratorId} {body : Callback}
    {exit : Value} {result : Value × GeneratorId} (trusts : site.Trusts body)
    (run : Generator.buildElse place site.reference arm (some body) exit base = .ok result after) :
    ∃ part : Part, site.Completes base part after ∧
      site.IsArm base (base.order site.symbol) body (base.generator place).loopBlock
        (base.generator place).loopExit part ∧
      part.onward = some (.branch (branchTarget part.built exit)) ∧
      result = (blockValue part.start, part.place) ∧
      after.order site.symbol = part.built.order site.symbol := by
  obtain ⟨_, built, building, run⟩ := bind_eq_ok.mp run
  obtain ⟨part, rfl, rfl, begun, isArm⟩ := hosts.buildArm trusts building
  obtain ⟨_, led, leading, run⟩ := bind_eq_ok.mp run
  obtain ⟨_, done, finishing, run⟩ := bind_eq_ok.mp run
  obtain rfl := modify_eq_ok.mp finishing
  obtain ⟨seen, _, looked, run⟩ := bind_eq_ok.mp run
  obtain ⟨rfl, rfl⟩ := get_eq_ok.mp looked
  obtain ⟨rfl, rfl⟩ := pure_eq_ok.mp run
  have again := begun.ledOn (some (.branch (branchTarget part.built exit)))
  obtain ⟨leads, layout⟩ :=
    again.leadTo rfl begun.advances.progress.holds.refl (fun _ => rfl) leading
  have completes := leads.completes again
  have runs := isArm.runs.ledOn (some (.branch (branchTarget part.built exit)))
  refine ⟨_, completes, ⟨runs, isArm.isNew, isArm.order⟩, rfl, ?_, layout.order _⟩
  rw [← completes.start_eq runs]

/-- **The end of a conditional**: the meeting place is moved unless it is given, the block at which the
generator is is ended, and the generator goes on or is finished. -/
theorem Hosts.endConditional (hosts : site.Hosts base place) {given exit : Value}
    {arm : GeneratorId} {operation : Operation} (terminates : operation.isTerminator = true)
    (run : (do
      unless given.isGiven do
        Function.moveAfter site.reference exit ((← get).generator arm).block
      let _ ← Generator.emit place operation
      if given.isGiven then Generator.finish place
      else Generator.moveTo place exit : Build Unit) base = .ok () after) :
    ∃ here, site.EndsBlock place arm given exit operation here base after := by
  cases isGiven : given.isGiven with
  | true =>
      rw [isGiven] at run
      obtain ⟨value, emitted, emitting, run⟩ := bind_eq_ok.mp run
      obtain rfl := modify_eq_ok.mp run
      obtain ⟨here, -, standing, -⟩ := hosts.emit_ok emitting
      obtain ⟨ends, progress, layout, record, endings⟩ :=
        hosts.endBlock standing terminates emitting fun generator =>
          { generator with isFinished := true }
      refine ⟨here, standing, progress, ends, endings, ?_, ?_⟩
      · rw [if_pos isGiven]
        exact record
      · rw [if_pos isGiven]
        exact layout.order _
  | false =>
      rw [isGiven] at run
      obtain ⟨seen, _, looked, run⟩ := bind_eq_ok.mp run
      obtain ⟨rfl, rfl⟩ := get_eq_ok.mp looked
      obtain ⟨_, ordered, moving, run⟩ := bind_eq_ok.mp run
      obtain ⟨value, emitted, emitting, run⟩ := bind_eq_ok.mp run
      obtain rfl := modify_eq_ok.mp run
      -- Moving the meeting place leaves all generators and instructions as they are.
      obtain ⟨moves, generators, rows⟩ := hosts.toHolds.moveAfter moving
      have same := moves.generator place hosts.inside id
      have later := hosts.later moves id
      obtain ⟨here, -, standing, -⟩ := later.emit_ok emitting
      obtain ⟨ends, progress, layout, record, endings⟩ :=
        later.endBlock standing terminates emitting fun generator => { generator with block := exit }
      refine ⟨here, same ▸ standing, (moves.weaken (fun _ _ => False.elim) fun _ _ =>
        False.elim).trans progress (fun _ _ => id) fun _ _ => id, ends, fun block => ?_, ?_, ?_⟩
      · rw [endings, World.endings, rows, World.endings]
      · rw [if_neg (Bool.eq_false_iff.mp isGiven), record, same]
      · rw [if_neg (Bool.eq_false_iff.mp isGiven), layout.order]
        intro moved anchor isMoved isAnchor
        rw [isMoved, isAnchor] at moving
        exact hosts.toHolds.order_of_moveAfter moving

/-- A single arm. -/
theorem Completes.buildsArms {diamond : Diamond} (alone : diamond.second? = none)
    (completes : site.Completes before diamond.first after)
    (new : site.IsNew before diamond.first.start)
    (order : after.order site.symbol = diamond.first.built.order site.symbol ++ diamond.laid) :
    site.BuildsArms before diamond after := by
  obtain ⟨here, tested, first, second?, join, laid⟩ := diamond
  cases alone
  refine ⟨fun arm member => ?_, completes.idly new, fun block => ?_, order, completes.block_eq⟩
  · rw [List.mem_singleton.mp member]
    exact ⟨completes.toBuilt, completes.anew, completes.not_owns new, completes.settled⟩
  · rw [completes.endings]
    simp [Diamond.arms]

/-- Two arms, the second one after the first one. -/
theorem Completes.buildsBoth {diamond : Diamond} {second : Part}
    (both : diamond.second? = some second)
    (completes : site.Completes before diamond.first middle)
    (new : site.IsNew before diamond.first.start) (later : site.Completes middle second after)
    (newer : site.IsNew middle second.start)
    (order : after.order site.symbol = second.built.order site.symbol) :
    site.BuildsArms before diamond after := by
  obtain ⟨here, tested, first, second?, join, laid⟩ := diamond
  cases both
  have idly := completes.idly new
  refine ⟨fun arm member => ?_, idly.idly (later.idly newer), fun block => ?_, order,
    later.block_eq⟩
  · rcases List.mem_pair.mp member with rfl | rfl
    · refine ⟨completes.toBuilt, completes.anew, completes.not_owns new,
        completes.settled.later completes.toBuilt later.progress id fun block owns same =>
          newer.not_has ?_⟩
      exact same ▸ completes.settled.has block (completes.has owns)
    · exact ⟨later.toBuilt, Nat.le_trans idly.generators later.anew,
        fun block known => later.not_owns newer block (idly.has known), later.settled⟩
  · rw [later.endings, completes.endings]
    simp [Diamond.arms]

/-- **The second arm comes after the first one**, if there is one. -/
theorem Hosts.buildsArms (hosts : site.Hosts before place) {elseBody : Option Callback}
    {first : Part} {join : Value} {laid : List Nat} {result : Value × GeneratorId}
    (trusts : ∀ body, elseBody = some body → site.Trusts body)
    (completes : site.Completes before first middle) (new : site.IsNew before first.start)
    (order : middle.order site.symbol = first.built.order site.symbol ++ laid)
    (run : Generator.buildElse place site.reference first.place elseBody join middle =
      .ok result after) :
    ∃ second?,
      (∀ here tested, site.BuildsArms before ⟨here, tested, first, second?, join, laid⟩ after) ∧
      site.Progress nothing nothing middle after ∧
      result = (second?.elim join fun part => blockValue part.start, (second?.getD first).place) ∧
      Option.Rel (fun body part =>
        site.IsArm first.built (first.built.order site.symbol ++ laid) body
          (before.generator place).loopBlock (before.generator place).loopExit part ∧
        part.onward = some (.branch (branchTarget part.built join))) elseBody second? := by
  cases elseBody with
  | none =>
      obtain ⟨rfl, rfl⟩ := pure_eq_ok.mp run
      exact ⟨none, fun _ _ => completes.buildsArms rfl new order, completes.progress.holds.refl, rfl,
        .none⟩
  | some body =>
      have idly := completes.idly new
      obtain ⟨second, later, isArm, onward, rfl, same⟩ :=
        (hosts.later idly id).buildElse (trusts body rfl) run
      rw [idly.generator place hosts.inside id, order] at isArm
      refine ⟨some second, fun _ _ => completes.buildsBoth rfl new later isArm.isNew same,
        later.idly isArm.isNew, rfl,
        .some ⟨⟨isArm.runs, ⟨isArm.isNew.routine, ?_⟩, isArm.order⟩, onward⟩⟩
      refine Nat.le_of_not_lt fun known => isArm.isNew.not_has (completes.settled.has _ ?_)
      rw [World.Has, isArm.isNew.routine]
      exact known

/-- **The arms are built** once the condition is what it should be. -/
theorem Hosts.laysArms (hosts : site.Hosts before place) {condition given join : Value}
    {thenBody : Callback} {elseBody : Option Callback} {tested : Operand} {coerced built met : World}
    {arm : GeneratorId} {result : Value × GeneratorId} (trustsThen : site.Trusts thenBody)
    (trustsElse : ∀ body, elseBody = some body → site.Trusts body)
    (coercing : Generator.coerce place condition (some conditionType) before = .ok tested coerced)
    (building : Generator.buildArm place site.reference "then" thenBody coerced = .ok arm built)
    (meeting : Generator.meetingPlace arm site.reference given built = .ok join met)
    (choosing : Generator.buildElse place site.reference arm elseBody join (finished arm met) =
      .ok result after) :
    ∃ first second? laid, ((finished arm met).generator arm).start = blockValue first.start ∧
      result = (second?.elim join fun part => blockValue part.start, (second?.getD first).place) ∧
        ∀ here, site.LaysArms place condition thenBody elseBody given before
          ⟨here, tested, first, second?, join, laid⟩ after := by
  -- The condition changes no code.
  have same := (Generator.leads_coerce place condition _ : Leads SameCode _).of_ok coercing
  have coerces : site.Idles before coerced := (hosts.toHolds.sameCode same).idles same.row
  -- The first arm is led to the meeting place, and the second one, if there is one, comes after it.
  obtain ⟨part, rfl, rfl, begun, isArm⟩ :=
    (hosts.later coerces.toProgress id).buildArm trustsThen building
  obtain ⟨onward, laid, meets, leads, order, known⟩ := begun.meetingPlace meeting
  have done := leads.completes (begun.ledOn onward)
  have runs := isArm.runs.ledOn onward
  have new : site.IsNew before part.start := coerces.isNew isArm.isNew
  obtain ⟨second?, arms, further, chosen, elseArm⟩ :=
    hosts.buildsArms trustsElse (done.since coerces) new order choosing
  refine ⟨{ part with onward }, second?, laid, done.start_eq runs, chosen, fun here =>
    ⟨⟨⟨coerced, coercing⟩, ?_, meets, elseArm⟩, arms here tested, fun free => ?_⟩⟩
  · have order := isArm.order
    rw [same.order] at order
    rw [same.toSameFrame.generator] at runs
    exact ⟨runs, new, order⟩
  · have free := Bool.eq_false_iff.mpr free
    obtain ⟨block, rfl, fresh⟩ := meets.exists_block (done.since coerces).toBegun new free
    exact ⟨block, rfl, fresh, further.has (known block rfl free)⟩

/-- **A conditional is closed** once its arms are built and the block of the generator is ended. -/
theorem LaysArms.wires {condition given : Value} {thenBody : Callback} {elseBody : Option Callback}
    {diamond : Diamond} {built : World}
    (lays : site.LaysArms place condition thenBody elseBody given before diamond built)
    (hosts : site.Hosts before place)
    (ends : site.EndsBlock place diamond.last.place given diamond.join diamond.fork diamond.here
      built after) :
    site.Advances place before after ∧
      site.WiresConditional place condition thenBody elseBody given before diamond after := by
  -- Building the arms has left the generator where it was.
  have same := lays.progress.generator place hosts.inside id
  have standing := same ▸ ends.standing
  have record := same ▸ ends.record
  have worked : site.Progress (· = place) (· = diamond.here) before after :=
    (lays.progress.weaken (fun _ _ => False.elim) fun _ _ => False.elim).trans ends.progress
      (fun _ _ => id) fun _ _ => id
  refine ⟨worked.advances_to standing record fun free => ?fresh,
    { toArms := lays.toArms, standing, settled := ?settled, forks := ends.ends, endings := ?endings,
      record, order := ?order }⟩
  case fresh =>
    obtain ⟨block, join, fresh, known⟩ := lays.joined free
    exact ⟨block, join, fresh, ends.progress.has known⟩
  case settled =>
    intro arm member
    obtain ⟨built, anew, apart, settled⟩ := lays.arms arm member
    refine ⟨built, settled.later built ends.progress (fun same => ?_) fun block owns same => ?_⟩
    · exact Nat.not_lt.mpr anew (same ▸ hosts.inside)
    · exact apart block (same ▸ hosts.standing diamond.here standing) owns
  case endings =>
    intro block
    rw [ends.endings, lays.endings]
  case order =>
    have order := ends.order
    split
    next isGiven =>
      rw [if_pos isGiven] at order
      exact order.trans lays.order
    next free =>
      rw [if_neg free] at order
      obtain ⟨block, join, -⟩ := lays.joined free
      obtain ⟨behind, ending⟩ := (lays.arms _ diamond.last_mem_arms).1.exists_block
      exact ⟨block, behind, join, ending,
        lays.order ▸ order block behind join (lays.last.trans ending)⟩

/-- **A conditional builds its arms** and then ends the block at which its generator is. -/
theorem Hosts.conditional_ok (hosts : site.Hosts before place)
    (unfinished : (before.generator place).isFinished = false) {condition given value : Value}
    {thenBody : Callback} {elseBody : Option Callback} (trustsThen : site.Trusts thenBody)
    (trustsElse : ∀ body, elseBody = some body → site.Trusts body)
    (run : Generator.conditional place condition (some thenBody) elseBody given before =
      .ok value after) :
    ∃ diamond built, site.LaysArms place condition thenBody elseBody given before diamond built ∧
      site.EndsBlock place diamond.last.place given diamond.join diamond.fork diamond.here built
        after := by
  obtain ⟨conditional, rfl⟩ := Generator.actUnlessFinished_ok unfinished run
  obtain ⟨seen, _, looked, conditional⟩ := bind_eq_ok.mp conditional
  obtain ⟨rfl, rfl⟩ := get_eq_ok.mp looked
  rw [hosts.function] at conditional
  obtain ⟨tested, coerced, coercing, conditional⟩ := bind_eq_ok.mp conditional
  obtain ⟨arm, built, building, conditional⟩ := bind_eq_ok.mp conditional
  obtain ⟨join, met, meeting, conditional⟩ := bind_eq_ok.mp conditional
  obtain ⟨_, done, finishing, conditional⟩ := bind_eq_ok.mp conditional
  obtain rfl := modify_eq_ok.mp finishing
  obtain ⟨seen, _, looked, conditional⟩ := bind_eq_ok.mp conditional
  obtain ⟨rfl, rfl⟩ := get_eq_ok.mp looked
  obtain ⟨_, elsed, choosing, conditional⟩ := bind_eq_ok.mp conditional
  obtain ⟨first, second?, laid, whenTrue, rfl, lays⟩ :=
    hosts.laysArms trustsThen trustsElse coercing building meeting choosing
  rw [whenTrue] at conditional
  obtain ⟨here, ends⟩ := (hosts.later (lays default).progress id).endConditional rfl conditional
  exact ⟨_, elsed, lays here, ends⟩

/-- **Conditionals wire what they should.** -/
theorem Hosts.conditional (hosts : site.Hosts before place)
    (unfinished : (before.generator place).isFinished = false) {condition given value : Value}
    {thenBody : Callback} {elseBody : Option Callback} (trustsThen : site.Trusts thenBody)
    (trustsElse : ∀ body, elseBody = some body → site.Trusts body)
    (run : Generator.conditional place condition (some thenBody) elseBody given before =
      .ok value after) :
    site.Advances place before after ∧ ∃ diamond,
      site.WiresConditional place condition thenBody elseBody given before diamond after := by
  obtain ⟨diamond, built, lays, ends⟩ :=
    hosts.conditional_ok unfinished trustsThen trustsElse run
  obtain ⟨advances, wires⟩ := lays.wires hosts ends
  exact ⟨advances, diamond, wires⟩

/-! ## Where the arms meet -/

/-- What has been put somewhere else is still there. -/
theorem MovedBehind.subset {moved anchor : Nat} {before after : List Nat}
    (moves : MovedBehind moved anchor before after) : before ⊆ after := by
  intro place member
  unfold MovedBehind at moves
  split at moves
  · exact moves ▸ member
  · obtain ⟨left, right, split, rfl⟩ := moves
    by_cases same : place = moved
    · simp [same]
    · have kept : place ∈ before.erase moved := (List.mem_erase_of_ne same).mpr member
      rw [split] at kept
      simp only [List.mem_append, List.mem_cons] at kept ⊢
      tauto

variable {condition given value : Value} {thenBody : Callback} {elseBody : Option Callback}
  {diamond : Diamond}

/-- **The arms of a conditional take no block out of its order** if their callbacks do not. -/
theorem LaysArms.order_subset
    (lays : site.LaysArms place condition thenBody elseBody given before diamond after)
    (confinesThen : site.Confines thenBody)
    (confinesElse : ∀ body, elseBody = some body → site.Confines body) :
    before.order site.symbol ⊆ after.order site.symbol := by
  obtain ⟨here, tested, first, second?, join, laid⟩ := diamond
  obtain ⟨_, calling⟩ := lays.thenArm.runs.calls
  have first_built := (lays.arms first List.mem_cons_self).1
  have kept := (confinesThen _ _ _ _ _ first_built.hosts calling).order
  rw [lays.thenArm.order] at kept
  have start : before.order site.symbol ⊆ first.built.order site.symbol ++ laid :=
    List.Subset.trans (List.subset_append_left _ _)
      (List.Subset.trans kept (List.subset_append_left _ _))
  rw [lays.order]
  have elseArm := lays.elseArm
  revert confinesElse
  rcases elseArm with ⟨⟨isArm, -⟩⟩ | _
  next body second =>
    intro confinesElse
    obtain ⟨_, calling⟩ := isArm.runs.calls
    have second_built := (lays.arms second (List.mem_cons_of_mem _ (List.mem_singleton_self _))).1
    have kept := (confinesElse body rfl _ _ _ _ _ second_built.hosts calling).order
    rw [isArm.order] at kept
    exact List.Subset.trans start (List.Subset.trans (List.subset_append_left _ _) kept)
  · exact fun _ => start

/-- **Where the arms meet has not ended** once they are built, unless it was given. -/
theorem LaysArms.endings_join
    (lays : site.LaysArms place condition thenBody elseBody given before diamond after)
    (free : given.isGiven = false) {join : BlockRef} (meets : diamond.join = blockValue join) :
    after.endings join = [] := by
  obtain ⟨known, isJoin, new, -⟩ := lays.joined (Bool.eq_false_iff.mp free)
  rw [meets] at isJoin
  cases isJoin
  obtain ⟨here, tested, first, second?, _, laid⟩ := diamond
  cases meets
  obtain ⟨built, -, -, settled⟩ := lays.arms first List.mem_cons_self
  have meets : site.MeetsAt first given (blockValue join) first.onward laid := lays.meets
  generalize onward_eq : first.onward = onward at meets
  cases meets with
  | given isGiven =>
      rw [free] at isGiven
      cases isGiven
  | own own _ opened empty =>
      have same := settled.rests join (built.owns_of_open opened) fun _ => onward_eq
      rw [World.endings, same, empty]
      rfl
  | anew =>
      -- The first arm does not know the block, and the second one finds it in the order.
      have beyond : site.IsNew first.built _ := isNew_next first.built
      have first_nil : first.edges (site.next first.built) = [] := by
        have closing : first.closing (site.next first.built) = [] :=
          if_neg fun opened => beyond.not_has (built.has (built.owns_of_open opened))
        rw [Part.edges, closing, Part.gained, World.endings_of_not_has beyond.not_has, List.drop_nil]
        rfl
      have elseArm := lays.elseArm
      rw [lays.endings, World.endings_of_not_has new.not_has, Diamond.arms, List.flatMap_cons, first_nil]
      rcases elseArm with ⟨⟨isArm, -⟩⟩ | _
      next body second =>
        have second_built :=
          (lays.arms second (List.mem_cons_of_mem _ (List.mem_singleton_self _))).1
        have nodup := second_built.hosts.nodup
        have order := isArm.order
        rw [order] at nodup
        have second_nil : second.edges (site.next first.built) = [] := by
          refine second_built.edges_eq_nil rfl ?_ fun same => ?_
          · rw [order]
            simp
          · refine (List.nodup_append.mp nodup).2.2 (site.next first.built).place (by simp)
              second.start.place (List.mem_singleton_self _) ?_
            rw [same]
        simp [second_nil]
      · rfl

/-- **A conditional leaves its generator where it may go on**, and all blocks in order. -/
theorem Hosts.proceeds_conditional (hosts : site.Hosts before place)
    (unfinished : (before.generator place).isFinished = false) (confinesThen : site.Confines thenBody)
    (confinesElse : ∀ body, elseBody = some body → site.Confines body)
    (run : Generator.conditional place condition (some thenBody) elseBody given before =
      .ok value after) :
    site.Proceeds place before after := by
  obtain ⟨diamond, built, lays, ends⟩ := hosts.conditional_ok unfinished confinesThen.trusts
    (fun body chosen => (confinesElse body chosen).trusts) run
  obtain ⟨advances, wires⟩ := lays.wires hosts ends
  have kept := lays.order_subset confinesThen confinesElse
  rw [lays.order] at kept
  have order := wires.order
  have record := wires.record
  cases isGiven : given.isGiven with
  | true =>
      rw [if_pos isGiven] at order record
      exact advances.proceeds_of_isFinished (by rw [record]) (order ▸ kept)
  | false =>
      have free := Bool.eq_false_iff.mp isGiven
      rw [if_neg free] at order record
      obtain ⟨join, behind, meets, -, moves⟩ := order
      refine advances.proceeds_of_block (by rw [record]; exact meets) ?_
        (List.Subset.trans kept moves.subset)
      obtain ⟨_, isJoin, new, -⟩ := lays.joined free
      rw [meets] at isJoin
      cases isJoin
      have other : join ≠ diamond.here := fun same =>
        new.not_has (same ▸ hosts.standing diamond.here wires.standing)
      rw [ends.endings, lays.endings_join isGiven meets, if_neg other]
      rfl

end Construction

end StructuredIR
