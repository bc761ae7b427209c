import StructuredIR.Proofs.Structured.Accounts
import StructuredIR.Proofs.Structured.Alterations
import StructuredIR.Proofs.Structured.Walks

/-! # What building comes to

A part of a structured body is built by a generator of its own. Whatever calls and nested parts it
is built with, the rest of the function can tell only this:

* **`FreshBody.Builds place reading before after`** says that of the open blocks only the one at which
  the generator was has been altered, that the generator is finished or at an open block again, and
  that walking from where it was carries out `reading`, whatever is built later on.
* **`FreshBody.Builds.seq`** puts two parts behind each other. -/

namespace StructuredIR

open Build (Leads bind_eq_ok get_eq_ok modify_eq_ok pure_eq_ok)

/-! ## Generators -/

namespace World

/-- A generator that is not finished is positioned at a block. -/
structure StandsAt (world : World) (place : GeneratorId) (block : BlockRef) : Prop where
  /-- It is not finished. -/
  unfinished : (world.generator place).isFinished = false
  /-- It is positioned at the block. -/
  here : (world.generator place).block = .operand (.block block)

/-- The block at which a generator stands, if it is not finished. -/
def stand (world : World) (place : GeneratorId) : List BlockRef :=
  if (world.generator place).isFinished then [] else (world.generator place).block.block?.toList

theorem StandsAt.stand_eq {world : World} {place : GeneratorId} {block : BlockRef}
    (stands : world.StandsAt place block) : world.stand place = [block] := by
  rw [stand, stands.unfinished, stands.here]
  rfl

theorem stand_of_isFinished {world : World} {place : GeneratorId}
    (finished : (world.generator place).isFinished = true) : world.stand place = [] := by
  rw [stand, finished]
  rfl

end World

/-- **The first generators are the same**, and none has gone. -/
structure Untouched (count : Nat) (before after : World) : Prop where
  /-- None has gone. -/
  grows : before.generators.length ≤ after.generators.length
  /-- The first ones are the same. -/
  same (other : GeneratorId) : other < count → after.generator other = before.generator other

instance (count : Nat) : IsEffect (Untouched count) where
  refl _ := ⟨Nat.le_refl _, fun _ _ => rfl⟩
  trans first second :=
    { grows := Nat.le_trans first.grows second.grows
      same := fun other inside => (second.same other inside).trans (first.same other inside) }

/-- **Only one generator has moved**, or has been finished, among those that were there. -/
structure Moves (place : GeneratorId) (before after : World) : Prop where
  /-- None has gone. -/
  grows : before.generators.length ≤ after.generators.length
  /-- Other ones are the same. -/
  others (other : GeneratorId) : other < before.generators.length → other ≠ place →
    after.generator other = before.generator other
  /-- It is for the same function. -/
  function : (after.generator place).function = (before.generator place).function
  /-- It began at the same block. -/
  start : (after.generator place).start = (before.generator place).start
  /-- The next turn of the loop around it begins where it did. -/
  loopBlock : (after.generator place).loopBlock = (before.generator place).loopBlock
  /-- The loop around it ends where it did. -/
  loopExit : (after.generator place).loopExit = (before.generator place).loopExit
  /-- If it was finished, it is. -/
  finished : (before.generator place).isFinished = true →
    (after.generator place).isFinished = true

instance (place : GeneratorId) : IsEffect (Moves place) where
  refl _ := ⟨Nat.le_refl _, fun _ _ _ => rfl, rfl, rfl, rfl, rfl, id⟩
  trans first second :=
    { grows := Nat.le_trans first.grows second.grows
      others := fun other inside different =>
        (second.others other (Nat.lt_of_lt_of_le inside first.grows) different).trans
          (first.others other inside different)
      function := second.function.trans first.function
      start := second.start.trans first.start
      loopBlock := second.loopBlock.trans first.loopBlock
      loopExit := second.loopExit.trans first.loopExit
      finished := fun held => second.finished (first.finished held) }

section

variable {place : GeneratorId} {before after : World}

/-- Where all generators are the same, the first ones are. -/
theorem Untouched.of_generators (count : Nat) (same : after.generators = before.generators) :
    Untouched count before after where
  grows := by rw [same]
  same other _ := by rw [World.generator, World.generator, same]

/-- Where all generators that were there stay the same, time and again, they are the same. -/
theorem Untouched.andThen {middle : World}
    (first : Untouched before.generators.length before middle)
    (second : Untouched middle.generators.length middle after) :
    Untouched before.generators.length before after :=
  IsEffect.trans first
    ⟨second.grows, fun other known => second.same other (Nat.lt_of_lt_of_le known first.grows)⟩

/-- A generator that is not among the first ones may move. -/
theorem Moves.untouched {count : Nat} (moves : Moves place before after) (beyond : count ≤ place)
    (inside : place < before.generators.length) : Untouched count before after where
  grows := moves.grows
  same other known :=
    have first : other < place := Nat.lt_of_lt_of_le known beyond
    moves.others other (Nat.lt_trans first inside) (Nat.ne_of_lt first)

/-- Where all generators that were there are the same, none has moved. -/
theorem Untouched.moves (untouched : Untouched before.generators.length before after)
    (inside : place < before.generators.length) : Moves place before after where
  grows := untouched.grows
  others other known _ := untouched.same other known
  function := by rw [untouched.same place inside]
  start := by rw [untouched.same place inside]
  loopBlock := by rw [untouched.same place inside]
  loopExit := by rw [untouched.same place inside]
  finished := by rw [untouched.same place inside]; exact id

/-- A generator moves if only its block and whether it is finished changes. -/
theorem Moves.of_changeGenerator (place : GeneratorId) (world : World)
    {update : Generator → Generator}
    (keeps : ∀ generator, ∃ block isFinished, update generator = { generator with block, isFinished })
    (finished : ∀ generator, generator.isFinished = true → (update generator).isFinished = true) :
    Moves place world (world.changeGenerator place update) := by
  obtain ⟨block, isFinished, same⟩ := keeps (world.generator place)
  have changed := world.generator_changeGenerator place place update
  refine ⟨(world.length_changeGenerator place update).ge, fun other _ different => ?_, ?_, ?_, ?_,
    ?_, fun held => ?_⟩
  · rw [World.generator_changeGenerator, if_neg fun claimed => different claimed.1]
  all_goals rw [changed]; split
  all_goals first | rfl | exact finished _ held | exact held | rw [same]

/-- Finishing moves a generator. -/
theorem Moves.of_finish (place : GeneratorId) (world : World) :
    Moves place world
      (world.changeGenerator place fun generator => { generator with isFinished := true }) :=
  .of_changeGenerator place world (fun generator => ⟨generator.block, true, rfl⟩) fun _ _ => rfl

/-- Positioning moves a generator. -/
theorem Moves.of_moveTo (place : GeneratorId) (block : Value) (world : World) :
    Moves place world
      (world.changeGenerator place fun generator => { generator with block }) :=
  .of_changeGenerator place world (fun generator => ⟨block, generator.isFinished, rfl⟩) fun _ => id

end

namespace FreshBody

open FunctionBody

variable (body : FreshBody)

/-- A generator is positioned at a block of the function. -/
def IsAt (world : World) (place : GeneratorId) (block : BlockRef) : Prop :=
  (world.generator place).block = .operand (.block block) ∧ body.IsInside world block

/-- **A generator that may build a part of the function**: it is for the function, at an open block
unless it is finished, and the loop around it, if there is one, is one of the function. -/
structure Ready (world : World) (place : GeneratorId) : Prop where
  /-- It is there. -/
  inside : place < world.generators.length
  /-- It is for the function. -/
  function : (world.generator place).function = body.reference
  /-- It is at a block of the function, which is open unless the generator is finished. -/
  isAt : ∃ block, body.IsAt world place block ∧
    ((world.generator place).isFinished = false → body.Open world block)
  /-- The next turn of the loop around it begins at a block of the function. -/
  loopBlock : (world.generator place).loopBlock ≠ .none →
    body.IsTarget world (world.generator place).loopBlock
  /-- The loop around it ends at a block of the function. -/
  loopExit : (world.generator place).loopExit ≠ .none →
    body.IsTarget world (world.generator place).loopExit

/-- Code of which nothing that is there in a world is missing. -/
def Extends (world : World) (code : BlockRef → List Instruction) : Prop :=
  ∀ block, body.IsInside world block → body.code world block <+: code block

/-- Where a generator was, in what has been written. -/
def exits (place : GeneratorId) (before after : World) : Exits where
  falls position :=
    after.StandsAt place position.block ∧ position.index = (body.code after position.block).length
  leaves position :=
    (before.generator place).loopExit = .operand (.block position.block) ∧ position.index = 0
  again position :=
    (before.generator place).loopBlock = .operand (.block position.block) ∧ position.index = 0
  least := 0

/-- **A part is read off** what has been built: from where the generator was, walking carries it out,
whatever has been built later on. -/
def Reads (place : GeneratorId) (reading : Reading) (before after : World) : Prop :=
  ∀ here, before.StandsAt place here → ∀ code, body.Extends after code →
    ∀ decide turns asked,
      Carries code decide turns ⟨⟨here, (body.code before here).length⟩, asked⟩
        (reading.exec decide turns asked) (body.exits place before after)

/-- **What building a part comes to.** -/
structure Builds (place : GeneratorId) (reading : Reading) (before after : World) : Prop where
  /-- Of the generators that were there, no other one has moved. -/
  moves : Moves place before after
  /-- The generator is at a block of the function. -/
  isAt : ∃ block, body.IsAt after place block
  /-- Only the block at which the generator was has been altered. -/
  alters : body.Alters (before.stand place) (after.stand place) before after
  /-- The part is read off what has been built. -/
  reads : body.Reads place reading before after

variable {body} {before middle after : World} {place : GeneratorId}

/-- A generator that is ready stands at an open block, unless it is finished. -/
theorem Ready.stands (ready : body.Ready before place)
    (unfinished : (before.generator place).isFinished = false) :
    ∃ block, before.StandsAt place block ∧ body.Open before block := by
  obtain ⟨block, ⟨here, -⟩, opened⟩ := ready.isAt
  exact ⟨block, ⟨unfinished, here⟩, opened unfinished⟩

/-- A generator that is not finished stands at an open block. -/
theorem Ready.open_of_standsAt (ready : body.Ready before place) {here : BlockRef}
    (stands : before.StandsAt place here) : body.Open before here := by
  obtain ⟨block, stands', opened⟩ := ready.stands stands.unfinished
  have same := stands.here.symm.trans stands'.here
  cases same
  exact opened

/-- A generator that is ready stays ready when it moves, if it is at an open block again. -/
theorem Ready.of_moves (ready : body.Ready before place) (moves : Moves place before after)
    (count : body.blockCount before ≤ body.blockCount after)
    (isAt : ∃ block, body.IsAt after place block ∧
      ((after.generator place).isFinished = false → body.Open after block)) :
    body.Ready after place where
  inside := Nat.lt_of_lt_of_le ready.inside moves.grows
  function := moves.function.trans ready.function
  isAt := isAt
  loopBlock given := by
    rw [moves.loopBlock] at given ⊢
    exact (ready.loopBlock given).later count
  loopExit given := by
    rw [moves.loopExit] at given ⊢
    exact (ready.loopExit given).later count

/-- Later code extends what there was before. -/
theorem Extends.of_alters {taken left : List BlockRef} {code : BlockRef → List Instruction}
    (alters : body.Alters taken left before after) (extended : body.Extends after code) :
    body.Extends before code :=
  fun block inside => (alters.code block inside).trans (extended block (alters.inside inside))

/-- The exits of a part that is read off may be described by less. -/
theorem Reads.weaken {reading : Reading} (reads : body.Reads place reading before after)
    {here : BlockRef} (stands : before.StandsAt place here) {code : BlockRef → List Instruction}
    (extended : body.Extends after code) (decide : Nat → Bool) (turns asked : Nat) (wider : Exits)
    (falls : ∀ position, after.StandsAt place position.block →
      position.index = (body.code after position.block).length → wider.falls position)
    (leaves : ∀ position, (before.generator place).loopExit = .operand (.block position.block) →
      position.index = 0 → wider.leaves position)
    (again : ∀ position, (before.generator place).loopBlock = .operand (.block position.block) →
      position.index = 0 → wider.again position) (least : wider.least = 0) :
    Carries code decide turns ⟨⟨here, (body.code before here).length⟩, asked⟩
      (reading.exec decide turns asked) wider :=
  (reads here stands code extended decide turns asked).weaken
    (fun position claimed => falls position claimed.1 claimed.2)
    (fun position claimed => leaves position claimed.1 claimed.2)
    (fun position claimed => again position claimed.1 claimed.2) (fun _ _ => least.le) (Nat.le_refl turns)

variable (body) in
/-- **A generator at work**: it stands at a block of a tidy function. -/
structure Works (world : World) (place : GeneratorId) (here : BlockRef) : Prop where
  /-- The function is tidy. -/
  tidy : body.Tidy world
  /-- The generator may build a part of it. -/
  ready : body.Ready world place
  /-- It stands at the block. -/
  stands : world.StandsAt place here

/-- A generator at work stands at an open block. -/
theorem Works.opened {here : BlockRef} (works : body.Works before place here) :
    body.Open before here :=
  works.ready.open_of_standsAt works.stands

/-- A generator at work stands at no other block. -/
theorem Works.eq {here there : BlockRef} (works : body.Works before place here)
    (stands : before.StandsAt place there) : there = here :=
  Operand.block.inj (Value.operand.inj (stands.here.symm.trans works.stands.here))

/-- A generator stays at work while it is not touched and its block is open. -/
theorem Works.later {here : BlockRef} {taken left : List BlockRef}
    (works : body.Works before place here)
    (untouched : Untouched before.generators.length before after)
    (alters : body.Alters taken left before after) (opened : body.Open after here) :
    body.Works after place here := by
  have same := untouched.same place works.ready.inside
  have stands : after.StandsAt place here :=
    ⟨same ▸ works.stands.unfinished, same ▸ works.stands.here⟩
  exact ⟨alters.tidy, works.ready.of_moves (untouched.moves works.ready.inside) alters.count
    ⟨here, ⟨stands.here, opened.1⟩, fun _ => opened⟩, stands⟩

/-- A generator is ready again when it has built a part. -/
theorem Builds.ready {reading : Reading} (builds : body.Builds place reading before after)
    (ready : body.Ready before place) : body.Ready after place := by
  obtain ⟨block, isAt⟩ := builds.isAt
  refine ready.of_moves builds.moves builds.alters.count ⟨block, isAt, fun unfinished => ?_⟩
  refine builds.alters.open_of_mem ?_
  rw [World.StandsAt.stand_eq ⟨unfinished, isAt.1⟩]
  exact List.mem_singleton_self block

/-- **Two parts behind each other.** -/
theorem Builds.seq {first second : Reading} (builds : body.Builds place first before middle)
    (further : body.Builds place second middle after) :
    body.Builds place (.seq first second) before after where
  moves := IsEffect.trans builds.moves further.moves
  isAt := further.isAt
  alters := builds.alters.trans further.alters
  reads here stands code extended decide turns asked := by
    refine Carries.andThen (body.exits place before after)
      (builds.reads here stands code (extended.of_alters further.alters) decide turns asked)
      (fun position falls => ?_) (fun _ => id) (fun _ => id)
    obtain ⟨standing, index⟩ := falls
    obtain ⟨block, index'⟩ := position
    obtain rfl : index' = (body.code middle block).length := index
    refine further.reads.weaken standing extended decide turns _ (body.exits place before after)
      (fun position stands index => ⟨stands, index⟩)
      (fun position leaves index => ⟨?_, index⟩) (fun position again index => ⟨?_, index⟩) rfl
    · rw [← builds.moves.loopExit, leaves]
    · rw [← builds.moves.loopBlock, again]

/-! ## Instructions behind each other -/

/-- Terminators are left out of a row. -/
theorem withoutTerminators_of_isStraight {row : List Instruction} (straight : IsStraight row) :
    withoutTerminators row = row :=
  List.filter_eq_self.mpr fun instruction member => by rw [straight instruction member]; rfl

/-- A terminator behind a straight row is left out. -/
theorem withoutTerminators_concat {row : List Instruction} {last : Instruction}
    (straight : IsStraight row) (terminates : last.operation.isTerminator = true) :
    withoutTerminators (row ++ [last]) = row := by
  have front := withoutTerminators_of_isStraight straight
  unfold withoutTerminators at front ⊢
  rw [List.filter_append, front, List.filter_singleton, terminates]
  exact List.append_nil row

/-- What generators have put into the blocks of a tidy function is its code. -/
theorem Tidy.written_eq (tidy : body.Tidy before) (block : BlockRef) :
    before.written body.reference block = body.code before block := by
  simp only [World.written, FreshBody.code, FunctionBody.slot?, tidy.entry, Option.some.injEq,
    eq_comm]

/-- What is added is what the code of the block has become longer by. -/
theorem added_eq (tidy : body.Tidy before) (tidyAfter : body.Tidy after) {here : BlockRef}
    (function : (before.generator place).function = body.reference)
    (stands : (before.generator place).block = .operand (.block here)) {more : List Instruction}
    (code : body.code after here = body.code before here ++ more) :
    Account.added place before after = withoutTerminators more := by
  simp only [Account.added, stands, function, Value.block?, tidy.written_eq, tidyAfter.written_eq,
    code, List.drop_left]

variable (body) in
/-- **Instructions are added** at an open block, which stays open, and no generator has changed. -/
structure Grows (here : BlockRef) (more : List Instruction) (before after : World) : Prop where
  /-- Only the block has been altered. -/
  alters : body.Alters [here] [here] before after
  /-- No generator has changed. -/
  generators : after.generators = before.generators
  /-- The instructions are behind those that were there. -/
  code : body.code after here = body.code before here ++ more
  /-- None of them ends the block. -/
  straight : IsStraight more

section

variable {here : BlockRef}

/-- Instructions may be added behind instructions. -/
theorem Grows.trans {more further : List Instruction} (first : body.Grows here more before middle)
    (second : body.Grows here further middle after) :
    body.Grows here (more ++ further) before after where
  alters := first.alters.trans second.alters
  generators := second.generators.trans first.generators
  code := by rw [second.code, first.code, List.append_assoc]
  straight := first.straight.append second.straight

/-- What alters no open block adds nothing. -/
theorem Grows.of_alters (alters : body.Alters [] [] before after) (opened : body.Open before here)
    (generators : after.generators = before.generators) : body.Grows here [] before after where
  alters := alters.frame opened List.not_mem_nil
  generators := generators
  code := by rw [List.append_nil, alters.keeps here opened List.not_mem_nil]
  straight := IsStraight.nil

/-- What changes no code adds nothing. -/
theorem Grows.of_sameCode (tidy : body.Tidy before) (opened : body.Open before here)
    (same : SameCode before after) : body.Grows here [] before after :=
  .of_alters (tidy.alters_of_sameCode same) opened same.generators

/-- Emission adds instructions where the generator is. -/
theorem Grows.of_emits (tidy : body.Tidy before) (opened : body.Open before here)
    (positioned : (before.generator place).block = .operand (.block here))
    (emits : Emits place before after) : ∃ more, body.Grows here more before after := by
  obtain ⟨more, straight, row, -⟩ := emits.row here
  exact ⟨more, tidy.alters_of_emits opened positioned emits, emits.generators,
    (sameShape_of_frame emits.toSameFrame).code_append tidy row, straight⟩

/-- A generator stays where it is while instructions are added. -/
theorem Grows.standsAt {more : List Instruction} {other : BlockRef}
    (grows : body.Grows here more before after) (stands : before.StandsAt place other) :
    after.StandsAt place other := by
  constructor
  · rw [World.generator, grows.generators]
    exact stands.unfinished
  · rw [World.generator, grows.generators]
    exact stands.here

/-- The block stays open. -/
theorem Grows.opened {more : List Instruction} (grows : body.Grows here more before after) :
    body.Open after here :=
  grows.alters.open_of_mem (List.mem_singleton_self here)

/-- A generator stays at work while instructions are added. -/
theorem Grows.works {more : List Instruction} (grows : body.Grows here more before after)
    (works : body.Works before place here) : body.Works after place here where
  tidy := grows.alters.tidy
  ready := works.ready.of_moves
    ((Untouched.of_generators _ grows.generators).moves works.ready.inside) grows.alters.count
    ⟨here, ⟨(grows.standsAt works.stands).here, grows.opened.1⟩, fun _ => grows.opened⟩
  stands := grows.standsAt works.stands

/-- **Instructions that are added** are read off. -/
theorem Grows.builds {more : List Instruction} (grows : body.Grows here more before after)
    (works : body.Works before place here) : body.Builds place (.run more) before after where
  moves := (Untouched.of_generators _ grows.generators).moves works.ready.inside
  isAt := ⟨here, (grows.standsAt works.stands).here, grows.opened.1⟩
  alters := by
    rw [works.stands.stand_eq, (grows.standsAt works.stands).stand_eq]
    exact grows.alters
  reads there stands code extended decide turns asked := by
    obtain rfl := works.eq stands
    have there := extended _ grows.opened.1
    rw [grows.code] at there
    refine ⟨_, ⟨_, _⟩, Walks.straight grows.straight _ there, ⟨grows.standsAt stands, ?_⟩,
      Nat.zero_le _⟩
    rw [grows.code]

/-- What is recorded while instructions are added is what is added. -/
theorem Grows.added_eq {more : List Instruction} (grows : body.Grows here more before after)
    (works : body.Works before place here) : Account.added place before after = more := by
  rw [FreshBody.added_eq works.tidy grows.alters.tidy works.ready.function works.stands.here
    grows.code, withoutTerminators_of_isStraight grows.straight]

/-- Nothing is added. -/
theorem Works.grows_refl (works : body.Works before place here) :
    body.Grows here [] before before :=
  .of_sameCode works.tidy works.opened (IsEffect.refl before)

/-- Nothing is built. -/
theorem Works.builds_refl (works : body.Works before place here) :
    body.Builds place (.run []) before before :=
  works.grows_refl.builds works

end

/-! ## The end of a block -/

variable (body) in
/-- **A block is ended** by an operation, and no generator has changed. -/
structure Closes (here : BlockRef) (operation : Operation) (before after : World) : Prop where
  /-- Only the block has been altered. -/
  alters : body.Alters [here] [] before after
  /-- No generator has changed. -/
  generators : after.generators = before.generators
  /-- The operation ends blocks. -/
  terminates : operation.isTerminator = true
  /-- It is behind the instructions that were there. -/
  code : ∃ last : Instruction, last.operation = operation ∧
    body.code after here = body.code before here ++ [last]

/-- A terminator that leads to blocks of the function ends an open block. -/
theorem Tidy.closes_of_emit (tidy : body.Tidy before) {here : BlockRef} {operation : Operation}
    {value : Operand} (opened : body.Open before here)
    (terminates : operation.isTerminator = true)
    (goes : ∀ target ∈ operation.targets, body.IsTarget before target)
    (run : Build.emit here operation before = .ok value after) :
    body.Closes here operation before after := by
  obtain ⟨made, does, -, -, -, changes⟩ := Build.emit_ok run
  subst does
  exact ⟨tidy.alters_of_terminator opened changes terminates goes, changes.generators, terminates,
    made, rfl, code_of_changesRow tidy opened changes⟩

/-- The end of a block leaves another open block open, and as it is. -/
theorem Closes.beside {here next : BlockRef} {operation : Operation}
    (closes : body.Closes here operation middle after)
    (adds : body.Alters [here] [here, next] before middle) (other : next ≠ here) :
    body.Alters [here] [next] before after ∧ body.code after next = body.code middle next := by
  have opened : body.Open middle next := adds.open_of_mem (by simp)
  have free : next ∉ [here] := by simpa using other
  refine ⟨adds.trans ((closes.alters.frame opened free).congr (fun block => ?_) fun _ => Iff.rfl),
    closes.alters.keeps next opened free⟩
  simp [or_comm]

/-- The walk behind the end of a block. -/
theorem Closes.walks {here : BlockRef} {operation : Operation} {decide : Nat → Bool} {asked : Nat}
    {other : Walker} (closes : body.Closes here operation before after)
    (opened : body.Open before here) {code : BlockRef → List Instruction}
    (extended : body.Extends after code)
    (leads : Walker.leadsTo decide asked operation = some other) :
    Walks code decide 1 ⟨⟨here, (body.code before here).length⟩, asked⟩ [] other := by
  obtain ⟨last, rfl, row⟩ := closes.code
  have there := extended here (closes.alters.inside opened.1)
  rw [row] at there
  exact .branch there closes.terminates leads

/-- The walk behind a block that ends with a choice. -/
theorem Closes.forks {here whenTrue whenFalse : BlockRef} {condition : Operand}
    (closes : body.Closes here
      (.branchIf condition (.operand (.block whenTrue)) (.operand (.block whenFalse))) before after)
    (opened : body.Open before here) {code : BlockRef → List Instruction}
    (extended : body.Extends after code) (decide : Nat → Bool) (asked : Nat) :
    Walks code decide 1 ⟨⟨here, (body.code before here).length⟩, asked⟩ []
      ⟨⟨if decide asked then whenTrue else whenFalse, 0⟩, asked + 1⟩ := by
  refine closes.walks opened extended ?_
  rw [Walker.leadsTo]
  cases decide asked <;> rfl

/-- The walk that stops at the end of a block. -/
theorem Closes.next_eq_none {here : BlockRef} {operation : Operation} {decide : Nat → Bool}
    {asked : Nat} (closes : body.Closes here operation before after)
    (opened : body.Open before here) {code : BlockRef → List Instruction}
    (extended : body.Extends after code)
    (halts : Walker.leadsTo decide asked operation = none) :
    Walker.next code decide ⟨⟨here, (body.code before here).length⟩, asked⟩ = none := by
  obtain ⟨last, rfl, row⟩ := closes.code
  have there := extended here (closes.alters.inside opened.1)
  rw [row] at there
  rw [Walker.next_of_isTerminator there closes.terminates, halts]
  rfl

end FreshBody

end StructuredIR
