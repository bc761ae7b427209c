import StructuredIR.Proofs.Wiring.Operations

/-! # Parts that callbacks build

The arms of a conditional and the parts of a loop are built by callbacks, each with a generator of
its own.

* **`Construction.Trusts`** is what is asked of a callback: it works with its own generator only.
  **`Construction.Confines`** asks besides that it works properly.
* **`Part`** is a part with the worlds in which its callback began and ended. **`Part.edges`** are the
  terminators that come of it: those of its callback, and the one by which the part is led on.
* **`Construction.Built`** says what is known of a part once its callback is done, and
  **`Construction.LeadsOn`** that it has been led on.
* **`Construction.Settled`** says that nothing more happens to a part that is done. -/

namespace StructuredIR

open Build (Leads bind_eq_ok get_eq_ok map_eq_ok modify_eq_ok pure_eq_ok)
open Generator (blockValue)

/-- **A part of a conditional or of a loop** that a callback builds. -/
structure Part where
  /-- The generator that the callback is called with. -/
  place : GeneratorId
  /-- The block at which the part begins. -/
  start : BlockRef
  /-- The world in which the callback is called. -/
  opened : World
  /-- The world that the callback leaves behind. -/
  built : World
  /-- What ends the block that the callback leaves open, if anything has to. -/
  onward : Option Operation

namespace Part

variable (part : Part)

/-- The block that the callback leaves open: where its generator is, unless that is finished. -/
def open? : Option BlockRef :=
  if (part.built.generator part.place).isFinished then none
  else (part.built.generator part.place).block.block?

/-- The terminators that the callback adds to a block. -/
def gained (block : BlockRef) : List Operation :=
  (part.built.endings block).drop (part.opened.endings block).length

/-- The terminator by which the part is led on, in the block that is left open. -/
def closing (block : BlockRef) : List Operation :=
  if part.open? = some block then part.onward.toList else []

/-- **All terminators that come of a part**, for each block. -/
def edges (block : BlockRef) : List Operation :=
  part.gained block ++ part.closing block

variable {part}

/-- The block that is left open is where the generator is. -/
theorem block_of_open {block : BlockRef} (opened : part.open? = some block) :
    (part.built.generator part.place).isFinished = false ∧
      (part.built.generator part.place).block = blockValue block := by
  unfold open? at opened
  split at opened
  · cases opened
  next unfinished => exact ⟨Bool.eq_false_iff.mpr unfinished, Value.eq_of_block?_eq_some opened⟩

/-- A generator that is not finished leaves the block open at which it is. -/
theorem open_of_block {block : BlockRef}
    (unfinished : (part.built.generator part.place).isFinished = false)
    (here : (part.built.generator part.place).block = blockValue block) :
    part.open? = some block := by
  rw [open?, unfinished, here]
  rfl

end Part

namespace Construction

variable (site : Construction)

/-- **A callback works with its own generator only.** -/
def Trusts (callback : Callback) : Prop :=
  ∀ part arguments world value final, site.Hosts world part →
    callback.run (.generator part :: arguments) world = .ok value final →
      site.Advances part world final

/-- **A callback works with its own generator only, and properly**: it does not leave the generator open
at a block that has ended, and takes no block out of the order. -/
def Confines (callback : Callback) : Prop :=
  ∀ part arguments world value final, site.Hosts world part →
    callback.run (.generator part :: arguments) world = .ok value final →
      site.Proceeds part world final

/-- A generator of the function at the beginning of a block, with a loop around it. -/
def startingAt (start : BlockRef) (loopBlock loopExit : Value) : Generator :=
  ⟨site.reference, blockValue start, blockValue start, loopBlock, loopExit, false⟩

/-- **A callback builds a part** with a new generator at the beginning of a block. -/
structure Runs (callback : Callback) (arguments : List Value) (loopBlock loopExit : Value)
    (part : Part) : Prop where
  /-- The generator is at the beginning of the block. -/
  begins : part.opened.generator part.place = site.startingAt part.start loopBlock loopExit
  /-- The callback is called with the generator. -/
  calls : ∃ value,
    callback.run (.generator part.place :: arguments) part.opened = .ok value part.built

/-- **A part whose callback is done.** -/
structure Built (part : Part) : Prop where
  /-- Its generator has been there from the outset. -/
  hosts : site.Hosts part.opened part.place
  /-- It began at the beginning of the part. -/
  begins : (part.opened.generator part.place).block = blockValue part.start
  /-- The part does not begin at the entry. -/
  apart : site.entry? ≠ some part.start
  /-- Only the generator has been at work. -/
  advances : site.Advances part.place part.opened part.built

/-- **Idle steps**: nothing that was there has changed, and no terminator has come up. -/
structure Idles (before after : World) : Prop extends site.Progress nothing nothing before after where
  /-- There are no further terminators. -/
  endings (block : BlockRef) : after.endings block = before.endings block

/-- **A part that has come up since some world.** -/
structure Begun (base : World) (part : Part) : Prop extends site.Built part where
  /-- Its generator has come up since. -/
  anew : base.generators.length ≤ part.place
  /-- What was there has not changed until the callback was called, except where the part begins. -/
  opens : site.Progress nothing (· = part.start) base part.opened
  /-- There are no further terminators yet. -/
  quiet (block : BlockRef) : part.opened.endings block = base.endings block

/-- The blocks of a part: the one at which it begins, and those that have come up since. -/
def Owns (part : Part) (block : BlockRef) : Prop :=
  block = part.start ∨ site.IsNew part.opened block ∧ part.built.Has block

/-- **A part has been led on** from the world that its callback has left. -/
structure LeadsOn (part : Part) (after : World) : Prop where
  /-- Only the block that has been left open has changed, if it had to be ended. -/
  progress : site.Progress (· = part.place)
    (fun block => part.open? = some block ∧ part.onward ≠ none) part.built after
  /-- There is one more terminator, if that block had to be ended. -/
  endings (block : BlockRef) : after.endings block = part.built.endings block ++ part.closing block
  /-- It is the end of the block. -/
  ends (block : BlockRef) (operation : Operation) : part.open? = some block →
    part.onward = some operation → after.EndsBy block operation
  /-- The generator of the part may have been finished. -/
  record : ∃ isFinished,
    after.generator part.place = { part.built.generator part.place with isFinished }

/-- **Nothing more happens to a part.** -/
structure Settled (part : Part) (world : World) : Prop where
  /-- Its blocks are there. -/
  has (block : BlockRef) : part.built.Has block → world.Has block
  /-- The block that its callback has left open ends by what leads the part on. -/
  ends (block : BlockRef) (operation : Operation) : part.open? = some block →
    part.onward = some operation → world.EndsBy block operation
  /-- All other blocks of the part are as the callback has left them. -/
  rests (block : BlockRef) : site.Owns part block →
    (part.open? = some block → part.onward = none) → world.row block = part.built.row block
  /-- The generator of the part is there. -/
  inside : part.place < world.generators.length
  /-- It is finished. -/
  finished : (world.generator part.place).isFinished = true

/-- **A part is complete**: it has come up since some world, it is settled, and nothing else has
happened since. -/
structure Completes (base : World) (part : Part) (after : World) : Prop
    extends site.Begun base part where
  /-- Nothing more happens to the part. -/
  settled : site.Settled part after
  /-- Of what was there only the block has changed at which the part begins. -/
  progress : site.Progress nothing (· = part.start) base after
  /-- The terminators that have come up are those of the part. -/
  endings (block : BlockRef) : after.endings block = base.endings block ++ part.edges block
  /-- The generator of the part is where it was left. -/
  record : ∃ isFinished,
    after.generator part.place = { part.built.generator part.place with isFinished }

variable {site} {before middle after base : World} {place : GeneratorId} {part : Part}
  {mine : GeneratorId → Prop} {grows : BlockRef → Prop}

/-- A callback that works properly is trusted. -/
theorem Confines.trusts {callback : Callback} (confines : site.Confines callback) :
    site.Trusts callback :=
  fun part arguments world value final hosts run =>
    (confines part arguments world value final hosts run).toAdvances

/-! ## Idle steps -/

/-- Steps that change no instructions at all are idle. -/
theorem Progress.idles (progress : site.Progress nothing nothing before after)
    (rows : ∀ block, after.row block = before.row block) : site.Idles before after where
  toProgress := progress
  endings block := congrArg terminators (rows block)

/-- What has come up since a world has come up since one before it. -/
theorem Begun.since (begun : site.Begun middle part) (idles : site.Idles base middle) :
    site.Begun base part where
  toBuilt := begun.toBuilt
  anew := Nat.le_trans idles.generators begun.anew
  opens := (idles.weaken (fun _ _ => id) fun _ _ => False.elim).trans begun.opens (fun _ _ => id)
    fun _ _ => id
  quiet block := (begun.quiet block).trans (idles.endings block)

/-- What is complete since a world is complete since one before it. -/
theorem Completes.since (completes : site.Completes middle part after)
    (idles : site.Idles base middle) : site.Completes base part after where
  toBegun := completes.toBegun.since idles
  settled := completes.settled
  progress := (idles.weaken (fun _ _ => id) fun _ _ => False.elim).trans completes.progress
    (fun _ _ => id) fun _ _ => id
  endings block := by rw [completes.endings, idles.endings]
  record := completes.record

/-- A complete part that begins at a new block has changed nothing that was there. -/
theorem Completes.idly (completes : site.Completes base part after)
    (new : site.IsNew base part.start) : site.Progress nothing nothing base after :=
  completes.progress.weaken (fun _ _ => id) fun _ known same => new.not_has (same ▸ known)

/-! ## Blocks of parts -/

namespace Built

/-- Where a part begins is there. -/
theorem has_start (built : site.Built part) : part.opened.Has part.start :=
  built.hosts.standing _ built.begins

/-- The blocks of a part are there once its callback is done. -/
theorem has (built : site.Built part) {block : BlockRef} (owns : site.Owns part block) :
    part.built.Has block := by
  rcases owns with rfl | ⟨-, known⟩
  · exact built.advances.progress.has built.has_start
  · exact known

/-- None of them is the entry. -/
theorem entry_ne (built : site.Built part) {block : BlockRef} (owns : site.Owns part block) :
    site.entry? ≠ some block := by
  rcases owns with rfl | ⟨new, -⟩
  · exact built.apart
  · exact built.hosts.entry_ne_of_isNew new

/-- The block at which the generator of a part is in the end is one of them. -/
theorem owns_of_block (built : site.Built part) {block : BlockRef}
    (here : (part.built.generator part.place).block = blockValue block) : site.Owns part block := by
  rcases built.advances.moves with same | ⟨new, moved, fresh, known⟩
  · rw [same, built.begins] at here
    cases here
    exact .inl rfl
  · rw [moved] at here
    cases here
    exact .inr ⟨fresh, known⟩

/-- The block that is left open is one of them. -/
theorem owns_of_open (built : site.Built part) {block : BlockRef}
    (opened : part.open? = some block) : site.Owns part block :=
  built.owns_of_block (Part.block_of_open opened).2

/-- The generator of a part is at one of them in the end. -/
theorem exists_block (built : site.Built part) :
    ∃ block, (part.built.generator part.place).block = blockValue block := by
  rcases built.advances.moves with same | ⟨new, moved, -, -⟩
  · exact ⟨part.start, same.trans built.begins⟩
  · exact ⟨new, moved⟩

/-- The terminators that are there when the callback is done are those that were there and those that
it has added. -/
theorem endings (built : site.Built part) (block : BlockRef) :
    part.built.endings block = part.opened.endings block ++ part.gained block := by
  obtain ⟨added, same⟩ := built.advances.progress.endings_prefix block
  rw [Part.gained, ← same, List.drop_left]

/-- A part has no terminators in a block that was in order when its callback was called and is not the
one at which it begins. -/
theorem edges_eq_nil (built : site.Built part) {block : BlockRef}
    (routine : block.routine = site.symbol) (inside : block.place ∈ part.opened.order site.symbol)
    (other : block ≠ part.start) : part.edges block = [] := by
  have known : part.opened.Has block := by
    rw [World.Has, routine]
    exact built.hosts.ordered _ inside
  have free : ¬ (part.opened.generator part.place).block = blockValue block := by
    rw [built.begins]
    rintro ⟨rfl⟩
    exact other rfl
  have gained : part.gained block = [] := by
    rw [Part.gained, built.advances.progress.endings_eq known free, List.drop_length]
  have closing : part.closing block = [] := by
    refine if_neg fun opened => ?_
    rcases built.owns_of_open opened with same | ⟨new, -⟩
    · exact other same
    · exact new.not_has known
  rw [Part.edges, gained, closing, List.append_nil]

end Built

/-- A block that was there before a part began is none of its blocks, unless it began there. -/
theorem Owns.eq_start (progress : site.Progress mine grows base part.opened) {block : BlockRef}
    (owns : site.Owns part block) (known : base.Has block) : block = part.start :=
  owns.resolve_right fun claimed => (progress.isNew claimed.1).not_has known

/-- A part that begins at a new block has no block that was there. -/
theorem Begun.not_owns (begun : site.Begun base part) (new : site.IsNew base part.start)
    (block : BlockRef) (known : base.Has block) : ¬ site.Owns part block :=
  fun owns => new.not_has (owns.eq_start begun.opens known ▸ known)

/-- Nothing happens to a part that is settled when other blocks and generators change. -/
theorem Settled.later (settled : site.Settled part before) (built : site.Built part)
    (progress : site.Progress mine grows before after) (free : ¬ mine part.place)
    (apart : ∀ block, site.Owns part block → ¬ grows block) : site.Settled part after where
  has block known := progress.has (settled.has block known)
  ends block operation opened leads := by
    have owns := built.owns_of_open opened
    exact progress.endsBy (settled.ends block operation opened leads)
      (settled.has block (built.has owns)) (apart block owns)
  rests block owns rest := by
    rw [progress.row_eq (settled.has block (built.has owns)) (apart block owns)
      (built.entry_ne owns), settled.rests block owns rest]
  inside := Nat.lt_of_lt_of_le settled.inside progress.generators
  finished := by
    rw [progress.generator part.place settled.inside free]
    exact settled.finished

/-! ## Leading on -/

/-- The world after a generator has been finished. -/
abbrev finished (place : GeneratorId) (world : World) : World :=
  world.changeGenerator place fun generator => { generator with isFinished := true }

/-- Changing a generator changes no instructions. -/
theorem row_changeGenerator (world : World) (place : GeneratorId) (update : Generator → Generator)
    (block : BlockRef) : (world.changeGenerator place update).row block = world.row block :=
  World.row_congr rfl

/-- **A part that has been led on and is finished** is complete. -/
theorem LeadsOn.completes (leads : site.LeadsOn part after) (begun : site.Begun base part) :
    site.Completes base part (finished part.place after) := by
  have inside := Nat.lt_of_lt_of_le (begun.advances.hosts begun.hosts).inside
    leads.progress.generators
  have fresh (other : GeneratorId) (known : other < base.generators.length)
      (same : other = part.place) : False :=
    Nat.not_lt.mpr begun.anew (same ▸ known)
  -- Of what was there before the part only the block has changed at which it begins.
  have worked : site.Progress nothing (· = part.start) base part.built :=
    begun.opens.trans begun.advances.progress fresh fun block known here => by
      rw [begun.begins] at here
      cases here
      rfl
  have led : site.Progress nothing (· = part.start) base after :=
    worked.trans leads.progress fresh fun block known meant =>
      Owns.eq_start begun.opens (begun.owns_of_open meant.1) known
  have settled : site.Settled part (finished part.place after) := by
    refine ⟨fun block known => leads.progress.has known, fun block operation opened onward => ?_,
      fun block owns rest => ?_, ?_, ?_⟩
    · obtain ⟨front, last, same, straight, does⟩ := leads.ends block operation opened onward
      exact ⟨front, last, (row_changeGenerator ..).trans same, straight, does⟩
    · rw [row_changeGenerator]
      exact leads.progress.row_eq (begun.has owns) (fun claimed => claimed.2 (rest claimed.1))
        (begun.entry_ne owns)
    · rw [World.length_changeGenerator]
      exact inside
    · rw [World.generator_changeGenerator, if_pos ⟨rfl, inside⟩]
  refine ⟨begun, settled, ?_, fun block => ?_, true, ?_⟩
  · exact led.trans (led.holds.changeGenerator part.place _) fresh fun _ _ => False.elim
  · rw [World.endings, row_changeGenerator, ← World.endings, leads.endings, begun.toBuilt.endings,
      begun.quiet, List.append_assoc, Part.edges]
  · obtain ⟨isFinished, record⟩ := leads.record
    rw [World.generator_changeGenerator, if_pos ⟨rfl, inside⟩, record]

/-- A callback builds a part whatever leads it on. -/
theorem Runs.ledOn {callback : Callback} {arguments : List Value} {loopBlock loopExit : Value}
    (runs : site.Runs callback arguments loopBlock loopExit part) (onward : Option Operation) :
    site.Runs callback arguments loopBlock loopExit { part with onward } :=
  ⟨runs.begins, runs.calls⟩

/-- A part is built as it is, whatever leads it on. -/
theorem Begun.ledOn (begun : site.Begun base part) (onward : Option Operation) :
    site.Begun base { part with onward } :=
  ⟨⟨begun.hosts, begun.begins, begun.apart, begun.advances⟩, begun.anew, begun.opens, begun.quiet⟩

/-- A part that is not led on is left as it is. -/
theorem Built.leadsOn_of_none (built : site.Built part)
    (rest : part.open? = none ∨ part.onward = none) : site.LeadsOn part part.built where
  progress := (built.advances.progress.holds.refl)
  endings block := by
    rw [Part.closing]
    rcases rest with closed | none
    · rw [closed, if_neg nofun, List.append_nil]
    · rw [none, Option.toList_none, ite_self, List.append_nil]
  ends block operation opened onward := by
    rcases rest with closed | none
    · rw [closed] at opened
      cases opened
    · rw [none] at onward
      cases onward
  record := ⟨_, rfl⟩

/-- The blocks are the same, in the same order. -/
structure SameLayout (before after : World) : Prop where
  /-- The blocks are the same. -/
  blockCount (symbol : SymbolRef) : after.blockCount symbol = before.blockCount symbol
  /-- Their order is the same. -/
  order (symbol : SymbolRef) : after.order symbol = before.order symbol

/-- A terminator that a generator adds ends the block at which the generator is. -/
theorem Hosts.endsBy_emit (hosts : site.Hosts before place) {operation : Operation} {value : Operand}
    {block : BlockRef} (here : (before.generator place).block = blockValue block)
    (terminates : operation.isTerminator = true)
    (run : Generator.emit place operation before = .ok value after) :
    after.EndsBy block operation ∧ site.Progress nothing (· = block) before after ∧
      SameFrame before after ∧ ∀ other,
        after.endings other = before.endings other ++ if other = block then [operation] else [] := by
  obtain ⟨known, made, stands, inside, does, changes, free⟩ := hosts.emit_ok run
  rw [here] at stands
  cases stands
  have straight := World.isStraight_of_isTerminated (free terminates)
  refine ⟨⟨before.row block, made, ?_, straight, does⟩, hosts.changesRow changes,
    changes.toSameFrame, fun other => ?_⟩
  · rw [changes.row, if_pos ⟨rfl, inside⟩]
  · rw [World.endings, changes.row]
    by_cases same : other = block
    · rw [if_pos ⟨same, inside⟩, if_pos same, terminators_append, same, World.endings]
      simp [terminators, does, terminates]
    · rw [if_neg fun claimed => same claimed.1, if_neg same, List.append_nil, World.endings]

/-- **A generator ends its block**, and then something of it is changed. -/
theorem Hosts.endBlock (hosts : site.Hosts before place) {operation : Operation} {value : Operand}
    {block : BlockRef} (here : (before.generator place).block = blockValue block)
    (terminates : operation.isTerminator = true)
    (run : Generator.emit place operation before = .ok value after) (update : Generator → Generator) :
    let final := after.changeGenerator place update
    final.EndsBy block operation ∧ site.Progress (· = place) (· = block) before final ∧
      SameLayout before final ∧ final.generator place = update (before.generator place) ∧
        ∀ other, final.endings other =
          before.endings other ++ if other = block then [operation] else [] := by
  obtain ⟨⟨front, last, row, straight, does⟩, progress, frame, endings⟩ :=
    hosts.endsBy_emit here terminates run
  refine ⟨⟨front, last, (row_changeGenerator ..).trans row, straight, does⟩, ?_,
    ⟨frame.blockCount, frame.order⟩, ?_, fun other => ?_⟩
  · exact (progress.weaken (fun _ _ => False.elim) fun _ _ => id).trans
      (progress.holds.changeGenerator place update) (fun _ _ => id) fun _ _ => False.elim
  · have inside := hosts.inside
    rw [← frame.generators] at inside
    rw [World.generator_changeGenerator, if_pos ⟨rfl, inside⟩, frame.generator]
  · rw [World.endings, row_changeGenerator, ← World.endings, endings]

/-- A branch ends the block at which its generator is. -/
theorem Hosts.branchTo_endsBy (hosts : site.Hosts before place) {target : Value}
    (run : Generator.branchTo place target before = .ok () after) :
    ∃ block, (before.generator place).block = blockValue block ∧
      after.EndsBy block (.branch (Generator.branchTarget before target)) := by
  obtain ⟨seen, _, looked, run⟩ := bind_eq_ok.mp run
  obtain ⟨rfl, rfl⟩ := get_eq_ok.mp looked
  obtain ⟨value, emitted, emitting, run⟩ := bind_eq_ok.mp run
  obtain rfl := modify_eq_ok.mp run
  obtain ⟨block, -, here, -⟩ := hosts.emit_ok emitting
  exact ⟨block, here, (hosts.endBlock here rfl emitting _).1⟩

/-- A generator that has been at work goes on at a new block, or is finished. -/
theorem Progress.advances_to {given target : Value} {here : BlockRef}
    (progress : site.Progress (· = place) (· = here) before after)
    (standing : (before.generator place).block = blockValue here)
    (record : after.generator place =
      if given.isGiven then { before.generator place with isFinished := true }
      else { before.generator place with block := target })
    (fresh : ¬ given.isGiven = true →
      ∃ block, target = blockValue block ∧ site.IsNew before block ∧ after.Has block) :
    site.Advances place before after := by
  refine ⟨progress.weaken (fun _ _ => id) fun block _ same => same ▸ standing, ?_, ?_⟩
  · rw [record]
    split
    · exact ⟨_, _, rfl⟩
    · exact ⟨_, _, rfl⟩
  · rw [record]
    split
    · exact .inl rfl
    next free => exact .inr (fresh free)

/-- **An open part whose block is ended** is led on. -/
theorem Built.leadsOn_of_emit (built : site.Built part) {operation : Operation} {value : Operand}
    (unfinished : (part.built.generator part.place).isFinished = false)
    (onward : part.onward = some operation) (terminates : operation.isTerminator = true)
    (idly : site.Progress nothing nothing part.built before)
    (rows : ∀ block, before.row block = part.built.row block)
    (run : Generator.emit part.place operation before = .ok value after) :
    site.LeadsOn part (finished part.place after) ∧
      SameLayout before (finished part.place after) := by
  obtain ⟨block, here⟩ := built.exists_block
  have opened := Part.open_of_block unfinished here
  have hosts := built.advances.hosts built.hosts
  have same := idly.generator part.place hosts.inside id
  rw [← same] at here
  obtain ⟨ends, progress, layout, record, endings⟩ :=
    (hosts.later idly id).endBlock here terminates run fun generator =>
      { generator with isFinished := true }
  refine ⟨⟨?_, fun other => ?_, fun other again claimed isAgain => ?_, true, record.trans ?_⟩, layout⟩
  · exact (idly.weaken (fun _ _ => False.elim) fun _ _ => False.elim).trans progress
      (fun _ _ => id) fun other _ same => ⟨same ▸ opened, by rw [onward]; simp⟩
  · rw [endings, Part.closing, onward, opened]
    congr 1
    · rw [World.endings, rows, World.endings]
    · by_cases isBlock : other = block
      · rw [if_pos isBlock, if_pos (isBlock ▸ rfl)]
        rfl
      · rw [if_neg isBlock, if_neg fun claimed => isBlock (Option.some.inj claimed).symm]
  · rw [opened] at claimed
    cases claimed
    rw [onward] at isAgain
    cases isAgain
    exact ends
  · rw [same]

/-- **A part that is led to a target** ends with a branch there, if it is open. -/
theorem Built.leadTo (built : site.Built part) {target : Value}
    (onward : part.onward = some (.branch (Generator.branchTarget before target)))
    (idly : site.Progress nothing nothing part.built before)
    (rows : ∀ block, before.row block = part.built.row block)
    (run : Generator.leadTo part.place target before = .ok () after) :
    site.LeadsOn part after ∧ SameLayout before after := by
  have hosts := built.advances.hosts built.hosts
  have same := idly.generator part.place hosts.inside id
  obtain ⟨seen, _, looked, run⟩ := bind_eq_ok.mp run
  obtain ⟨rfl, rfl⟩ := get_eq_ok.mp looked
  cases isFinished : (part.built.generator part.place).isFinished with
  | true =>
      rw [same, isFinished] at run
      cases run
      have closed : part.open? = none := by rw [Part.open?, isFinished, if_pos rfl]
      have rest := built.leadsOn_of_none (.inl closed)
      refine ⟨⟨rest.progress.idly idly, fun block => ?_, fun block operation opened => ?_, _, same⟩,
        fun _ => rfl, fun _ => rfl⟩
      · rw [World.endings, rows, ← World.endings]
        exact rest.endings block
      · rw [closed] at opened
        cases opened
  | false =>
      rw [same, isFinished] at run
      obtain ⟨seen, _, looked, run⟩ := bind_eq_ok.mp run
      obtain ⟨rfl, rfl⟩ := get_eq_ok.mp looked
      obtain ⟨_, emitted, emitting, run⟩ := bind_eq_ok.mp run
      obtain rfl := modify_eq_ok.mp run
      exact built.leadsOn_of_emit isFinished onward rfl idly rows emitting

/-! ## Beginning parts -/

/-- A new generator on a block of the function is at its beginning. -/
theorem Hosts.childAt_ok {child : GeneratorId} {block : BlockRef} (hosts : site.Hosts before place)
    (run : Generator.childAt place block before = .ok child after) :
    child = before.generators.length ∧ after = before.joined
      (site.startingAt block (before.generator place).loopBlock (before.generator place).loopExit) := by
  rw [startingAt, ← hosts.function]
  cases run
  exact ⟨rfl, rfl⟩

/-- A new generator at the beginning of a block that is there. -/
theorem Holds.hosts_joined (holds : site.Holds before) {block : BlockRef} (known : before.Has block)
    (loopBlock loopExit : Value) :
    site.Hosts (before.joined (site.startingAt block loopBlock loopExit))
      before.generators.length := by
  have same : (before.joined (site.startingAt block loopBlock loopExit)).generator
      before.generators.length = site.startingAt block loopBlock loopExit := by
    rw [World.generator_append, if_pos rfl]
  refine ⟨(holds.spares (.of_joined before _)).holds, ?_, ?_, fun other here => ?_⟩
  · rw [List.length_append]
    exact Nat.lt_succ_self _
  · rw [same]
    rfl
  · rw [same] at here
    cases here
    exact known

/-- **A part has begun** with a new generator on a block that is not the entry. The values that the
callback is called with may be loaded there first. -/
theorem Holds.begun (holds : site.Holds base) {callback : Callback} {arguments : List Value}
    {part : Part} {loopBlock loopExit value : Value} (known : base.Has part.start)
    (apart : site.entry? ≠ some part.start) (place_eq : part.place = base.generators.length)
    (loads : Emits part.place (base.joined (site.startingAt part.start loopBlock loopExit)) part.opened)
    (trusts : site.Trusts callback)
    (run : callback.run (.generator part.place :: arguments) part.opened = .ok value part.built) :
    site.Begun base part ∧ site.Runs callback arguments loopBlock loopExit part := by
  have joined := holds.hosts_joined known loopBlock loopExit
  rw [← place_eq] at joined
  have starts : (base.joined (site.startingAt part.start loopBlock loopExit)).generator part.place =
      site.startingAt part.start loopBlock loopExit := by
    rw [World.generator_append, if_pos place_eq]
  have opening := joined.toHolds.emits loads
  have joining := holds.spares (.of_joined base (site.startingAt part.start loopBlock loopExit))
  have same := (loads.toSameFrame.generator part.place).trans starts
  have hosts := joined.later opening id
  refine ⟨⟨⟨hosts, ?_, apart, trusts _ _ _ _ _ hosts run⟩, Nat.le_of_eq place_eq.symm, ?_,
    fun block => ?_⟩, same, value, run⟩
  · rw [same]
    rfl
  · refine (joining.weaken (fun _ _ => id) fun _ _ => False.elim).trans opening (fun _ _ => id)
      fun block _ here => ?_
    rw [starts] at here
    cases here
    rfl
  · exact loads.endings_eq block

/-- **A new block with a generator on it**, which a callback may use, changes nothing that was
there. -/
theorem Hosts.openBlock {name value : Value} {callback? : Option Callback}
    (hosts : site.Hosts before place)
    (confines : ∀ callback, callback? = some callback → site.Confines callback)
    (run : Generator.openBlock place name callback? before = .ok value after) :
    site.Proceeds place before after := by
  refine hosts.unlessFinished run fun run => ?_
  obtain ⟨seen, _, looked, run⟩ := bind_eq_ok.mp run
  obtain ⟨rfl, rfl⟩ := get_eq_ok.mp looked
  rw [hosts.function] at run
  obtain ⟨block, added, appending, run⟩ := bind_eq_ok.mp run
  obtain ⟨child, opened, opening, run⟩ := bind_eq_ok.mp run
  obtain ⟨rfl, adds⟩ := Function.appendBlock_ok (hosts.stands ▸ hosts.known) appending
  rw [hosts.stands] at adds opening
  obtain ⟨adding, known⟩ := hosts.toHolds.addsBlock adds
  have order : before.order site.symbol ⊆ added.order site.symbol := by
    rw [adds.order, if_pos rfl]
    exact List.subset_append_left _ _
  have later := hosts.later adding id
  obtain ⟨rfl, rfl⟩ := later.childAt_ok opening
  have opens := adding.idly (adding.holds.spares (.of_joined added
    (site.startingAt (site.next before) (added.generator place).loopBlock
      (added.generator place).loopExit)))
  cases callback? with
  | none =>
      obtain ⟨rfl, rfl⟩ := pure_eq_ok.mp run
      exact hosts.proceeds_idly opens order
  | some callback =>
      obtain ⟨_, called, calling, run⟩ := bind_eq_ok.mp run
      obtain ⟨rfl, rfl⟩ := pure_eq_ok.mp run
      have proceeds := confines callback rfl _ _ _ _ _
        (adding.holds.hosts_joined known _ _) calling
      refine hosts.proceeds_idly (opens.trans proceeds.progress (fun other inside same => ?_)
        fun block inside here => ?_) (List.Subset.trans order proceeds.order)
      · exact absurd (same ▸ inside) (Nat.not_lt.mpr adding.generators)
      · rw [World.generator_append, if_pos rfl] at here
        cases here
        exact (isNew_next before).not_has inside

end Construction

end StructuredIR
