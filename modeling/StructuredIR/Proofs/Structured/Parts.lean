import StructuredIR.Proofs.Structured.Operations

/-! # Nested parts

The arms of conditionals and the parts of loops are built by new generators, each at an open block.
What they leave open is led on to where control goes afterwards.

* **`FreshBody.Faithful`** is what is known of a callback that builds a part.
* **`FreshBody.Grafts`** says what has come up when a part has been built at a block.
* **`FreshBody.LeadsOn`** says that a part that begins at a block is carried out and ends at another
  one. It stays true whatever is built later on. -/

namespace StructuredIR

open Build (bind_eq_ok get_eq_ok modify_eq_ok pure_eq_ok)

namespace FreshBody

open FunctionBody

variable (body : FreshBody)

/-- **A callback builds what it accounts for**, with any generator that it is given first. -/
def Faithful (callback : AccountedCallback) : Prop :=
  ∀ part arguments world value reading final, body.Tidy world → body.Ready world part →
    callback.run (.generator part :: arguments) world = .ok (value, reading) final →
      body.Builds part reading world final

/-- Where a part ends that begins at a block: behind itself, or where the loop around a generator
says. -/
def partExits (around : Generator) (falls : Position → Prop) (least : Nat) : Exits where
  falls := falls
  leaves position := around.loopExit = .operand (.block position.block) ∧ position.index = 0
  again position := around.loopBlock = .operand (.block position.block) ∧ position.index = 0
  least := least

/-- **A part that begins at a block leads on** to another one, in at least a number of steps, unless
it leaves the loop around it or ends its turn. -/
def LeadsOn (world : World) (around : Generator) (start next : BlockRef) (least : Nat)
    (reading : Reading) : Prop :=
  ∀ code, body.Extends world code → ∀ decide turns asked,
    Carries code decide turns ⟨⟨start, 0⟩, asked⟩ (reading.exec decide turns asked)
      (partExits around (· = ⟨next, 0⟩) least)

/-- **What has been built at a block** by a new generator. -/
structure Grafts (part : GeneratorId) (around : Generator) (block : BlockRef)
    (taken others : List BlockRef) (reading : Reading) (before after : World) : Prop where
  /-- The generator is a new one. -/
  anew : before.generators.length ≤ part
  /-- It may go on building. -/
  ready : body.Ready after part
  /-- It began at the block. -/
  start : (after.generator part).start = .operand (.block block)
  /-- Other generators are the same. -/
  untouched : Untouched before.generators.length before after
  /-- Only blocks that are taken have been altered. -/
  alters : body.Alters taken (after.stand part ++ others) before after
  /-- The generator is at none of the other blocks. -/
  apart : ∀ other, after.StandsAt part other → other ∉ others
  /-- The part is read off from the beginning of the block. -/
  reads : ∀ code, body.Extends after code → ∀ decide turns asked,
    Carries code decide turns ⟨⟨block, 0⟩, asked⟩ (reading.exec decide turns asked)
      (partExits around (fun position => after.StandsAt part position.block ∧
        position.index = (body.code after position.block).length) 0)

/-- **What has been built at a block and leads on** to another one. -/
structure Joins (part : GeneratorId) (around : Generator) (block next : BlockRef)
    (taken left : List BlockRef) (least : Nat) (reading : Reading) (before after : World) :
    Prop where
  /-- The generator is a new one. -/
  anew : before.generators.length ≤ part
  /-- The generator began at the block. -/
  start : (after.generator part).start = .operand (.block block)
  /-- Other generators are the same. -/
  untouched : Untouched before.generators.length before after
  /-- Only blocks that are taken have been altered. -/
  alters : body.Alters taken left before after
  /-- The part leads on. -/
  leads : body.LeadsOn after around block next least reading

variable {body} {before middle after : World} {place part : GeneratorId} {here : BlockRef}

/-- What leads on does so whatever is built later on. -/
theorem LeadsOn.later {around : Generator} {start next : BlockRef} {least : Nat}
    {reading : Reading} {taken left : List BlockRef}
    (leads : body.LeadsOn before around start next least reading)
    (alters : body.Alters taken left before after) :
    body.LeadsOn after around start next least reading :=
  fun code extended => leads code (extended.of_alters alters)

/-- Nothing leads nowhere else. -/
theorem LeadsOn.refl (world : World) (around : Generator) (start : BlockRef) :
    body.LeadsOn world around start start 0 (.run []) :=
  fun _ _ _ _ _ => ⟨0, ⟨start, 0⟩, .stay _, rfl, Nat.le_refl 0⟩

/-! ## New generators -/

/-- A new generator comes up behind all others. -/
theorem untouched_append (world : World) (generator : Generator) :
    Untouched world.generators.length world
      { world with generators := world.generators ++ [generator] } where
  grows := by simp
  same other known := by
    rw [World.generator_append, if_neg (Nat.ne_of_lt known)]

/-- A generator at a block, inside the loop that is around another one. -/
def childOf (generator : Generator) (block : BlockRef) : Generator :=
  { generator with
    block := .operand (.block block), start := .operand (.block block), isFinished := false }

variable (body) in
/-- **A generator has come up** at a block, and nothing else has happened. -/
structure Opens (part : GeneratorId) (generator : Generator) (block : BlockRef)
    (before after : World) : Prop where
  /-- It is the next one. -/
  next : part = before.generators.length
  /-- It is what it should be. -/
  same : after.generator part = generator
  /-- Other ones are the same. -/
  untouched : Untouched before.generators.length before after
  /-- Nothing has been altered. -/
  alters : body.Alters [] [] before after
  /-- It is at work at the block. -/
  works : body.Works after part block

/-- A generator stays ready while it is not touched and the block at which it is, if it is at one,
is open. -/
theorem Ready.later {taken left : List BlockRef} (ready : body.Ready before place)
    (untouched : Untouched before.generators.length before after)
    (alters : body.Alters taken left before after)
    (free : ∀ block, before.StandsAt place block → block ∉ taken) : body.Ready after place := by
  have same := untouched.same place ready.inside
  obtain ⟨here, ⟨standing, inside⟩, opened⟩ := ready.isAt
  refine ready.of_moves (untouched.moves ready.inside) alters.count
    ⟨here, ⟨same ▸ standing, alters.inside inside⟩, fun unfinished => ?_⟩
  rw [same] at unfinished
  exact alters.open_of_not_mem (opened unfinished) (free here ⟨unfinished, standing⟩)

/-- **A new generator** at an open block is at work there. -/
theorem Ready.childAt {block : BlockRef} (ready : body.Ready before place)
    (tidy : body.Tidy before) (opened : body.Open before block)
    (run : Generator.childAt place block before = .ok part after) :
    body.Opens part (childOf (before.generator place) block) block before after := by
  obtain ⟨rfl, made⟩ : part = before.generators.length ∧ after = { before with
      generators := before.generators ++ [childOf (before.generator place) block] } := by
    cases run
    exact ⟨rfl, rfl⟩
  have same : after.generator before.generators.length = childOf (before.generator place) block := by
    rw [made, World.generator_append, if_pos rfl]
  have untouched : Untouched before.generators.length before after :=
    made ▸ untouched_append before (childOf (before.generator place) block)
  have alters : body.Alters [] [] before after := made ▸ tidy.alters_of_generators _
  have stands : after.StandsAt before.generators.length block :=
    ⟨by rw [same]; rfl, by rw [same]; rfl⟩
  have later := alters.open_of_not_mem opened List.not_mem_nil
  refine ⟨rfl, same, untouched, alters, alters.tidy,
    ⟨?_, ?_, ⟨block, ⟨stands.here, later.1⟩, fun _ => later⟩, ?_, ?_⟩, stands⟩
  · rw [made, List.length_append]
    exact Nat.lt_succ_self _
  · rw [same]
    exact ready.function
  · intro given
    rw [same] at given ⊢
    exact alters.target (ready.loopBlock given)
  · intro given
    rw [same] at given ⊢
    exact alters.target (ready.loopExit given)

/-- **What a new generator builds** at an open block without code is grafted there. -/
theorem Opens.grafts {world : World} {generator around : Generator} {block : BlockRef}
    {taken : List BlockRef} {reading : Reading}
    (opens : body.Opens part generator block world middle)
    (builds : body.Builds part reading middle after)
    (start : generator.start = .operand (.block block))
    (loopBlock : generator.loopBlock = around.loopBlock)
    (loopExit : generator.loopExit = around.loopExit)
    (untouched : Untouched before.generators.length before world)
    (alters : body.Alters taken [block] before world) (blank : body.code world block = []) :
    body.Grafts part around block taken [] reading before after where
  anew := opens.next ▸ untouched.grows
  ready := builds.ready opens.works.ready
  start := builds.moves.start.trans ((congrArg Generator.start opens.same).trans start)
  untouched := by
    have anew : before.generators.length ≤ part := opens.next ▸ untouched.grows
    exact IsEffect.trans (untouched.andThen opens.untouched)
      (builds.moves.untouched anew opens.works.ready.inside)
  alters := by
    rw [List.append_nil]
    exact (alters.idly opens.alters).trans (opens.works.stands.stand_eq ▸ builds.alters)
  apart _ _ := List.not_mem_nil
  reads code extended decide turns asked := by
    have carries := builds.reads.weaken opens.works.stands extended decide turns asked
      (partExits around (fun position => after.StandsAt part position.block ∧
        position.index = (body.code after position.block).length) 0)
      (fun position stands index => ⟨stands, index⟩)
      (fun position leaves index => ⟨by rw [← loopExit, ← opens.same, leaves], index⟩)
      (fun position again index => ⟨by rw [← loopBlock, ← opens.same, again], index⟩) rfl
    rwa [opens.alters.keeps block (alters.open_of_mem (List.mem_singleton_self block))
      List.not_mem_nil, blank] at carries

/-! ## Leading on -/

/-- A generator that is led on ends its block and is finished, unless it is finished already. -/
theorem Ready.leadTo {next : BlockRef} (ready : body.Ready before part) (tidy : body.Tidy before)
    (goes : body.IsTarget before (.operand (.block next)))
    (run : Generator.leadTo part (.operand (.block next)) before = .ok () after) :
    (before.generator part).isFinished = true ∧ after = before ∨
      ∃ block closed, body.Works before part block ∧ after = finished part closed ∧
        body.Closes block (.branch (.operand (.block next))) before closed := by
  obtain ⟨seen, _, looked, run⟩ := bind_eq_ok.mp run
  obtain ⟨rfl, rfl⟩ := get_eq_ok.mp looked
  cases isFinished : (before.generator part).isFinished with
  | true =>
      rw [isFinished] at run
      cases run
      exact .inl ⟨rfl, rfl⟩
  | false =>
      rw [isFinished] at run
      obtain ⟨block, stands, -⟩ := ready.stands isFinished
      have works : body.Works before part block := ⟨tidy, ready, stands⟩
      obtain ⟨closed, same, closes⟩ := works.branchTo goes run
      exact .inr ⟨block, closed, works, same, closes⟩

/-- Only the block at which a generator is may be altered when it is led on. -/
theorem Ready.alters_of_leadTo {next : BlockRef} (ready : body.Ready before part)
    (tidy : body.Tidy before) (goes : body.IsTarget before (.operand (.block next)))
    (run : Generator.leadTo part (.operand (.block next)) before = .ok () after) :
    body.Alters (before.stand part) [] before after := by
  rcases ready.leadTo tidy goes run with
    ⟨isFinished, rfl⟩ | ⟨here, closed, works, rfl, closes⟩
  · rw [World.stand_of_isFinished isFinished]
    exact .refl tidy nofun
  · rw [works.stands.stand_eq]
    exact closes.alters.finish part

/-- What has been built at a block is there when other blocks have come up. -/
theorem Grafts.later {around : Generator} {block : BlockRef} {taken others left : List BlockRef}
    {reading : Reading} (grafts : body.Grafts part around block taken others reading before middle)
    (alters : body.Alters [] left middle after)
    (generators : after.generators = middle.generators) :
    body.Grafts part around block taken (others ++ left) reading before after := by
  have untouched := Untouched.of_generators middle.generators.length generators
  have same : after.generator part = middle.generator part :=
    untouched.same part grafts.ready.inside
  have stand : after.stand part = middle.stand part := by rw [World.stand, World.stand, same]
  have opened (other : BlockRef) (member : other ∈ middle.stand part ++ others) :
      body.Open middle other :=
    grafts.alters.open_of_mem member
  have standing (other : BlockRef) (stands : after.StandsAt part other) :
      middle.StandsAt part other ∧ body.code after other = body.code middle other := by
    have stands : middle.StandsAt part other := ⟨same ▸ stands.unfinished, same ▸ stands.here⟩
    refine ⟨stands, alters.keeps other (opened other ?_) List.not_mem_nil⟩
    rw [stands.stand_eq]
    exact List.mem_cons_self
  refine ⟨grafts.anew, ?_, same ▸ grafts.start,
    IsEffect.trans grafts.untouched (.of_generators _ generators), ?_, fun other stands member => ?_,
    fun code extended decide turns asked => ?_⟩
  · exact grafts.ready.later untouched alters fun _ _ => List.not_mem_nil
  · rw [stand, ← List.append_assoc]
    exact grafts.alters.adding alters
  · have stands := (standing other stands).1
    have inside := (grafts.ready.open_of_standsAt stands).1
    rcases List.mem_append.mp member with old | new
    · exact grafts.apart other stands old
    · exact (alters.moves other new).elim List.not_mem_nil fun outside => outside inside
  · refine (grafts.reads code (extended.of_alters alters) decide turns asked).weaken
      (fun position falls => ?_) (fun _ => id) (fun _ => id) (fun _ _ => Nat.le_refl 0)
      (Nat.le_refl turns)
    have stands : after.StandsAt part position.block :=
      ⟨same ▸ falls.1.unfinished, same ▸ falls.1.here⟩
    exact ⟨stands, (standing position.block stands).2 ▸ falls.2⟩

/-- A part whose generator is finished leads on as it is: it does not end behind itself. -/
theorem Grafts.leads_of_isFinished {around : Generator} {block : BlockRef}
    {taken others : List BlockRef} {reading : Reading} {exits : Exits}
    (grafts : body.Grafts part around block taken others reading before after)
    (isFinished : (after.generator part).isFinished = true)
    (leaves : ∀ position, around.loopExit = .operand (.block position.block) ∧
      position.index = 0 → exits.leaves position)
    (again : ∀ position, around.loopBlock = .operand (.block position.block) ∧
      position.index = 0 → exits.again position)
    (code : BlockRef → List Instruction) (extended : body.Extends after code)
    (decide : Nat → Bool) (turns asked : Nat) :
    Carries code decide turns ⟨⟨block, 0⟩, asked⟩ (reading.exec decide turns asked) exits := by
  have never (position : Position) (stands : after.StandsAt part position.block) : False := by
    have claimed := stands.unfinished
    rw [isFinished] at claimed
    cases claimed
  exact (grafts.reads code extended decide turns asked).weaken
    (fun position falls => (never position falls.1).elim) leaves again
    (fun position falls => (never position falls.1).elim) (Nat.le_refl turns)

/-- Nothing is left open of a part whose generator is finished. -/
theorem Grafts.alters_of_isFinished {around : Generator} {block : BlockRef}
    {taken others : List BlockRef} {reading : Reading}
    (grafts : body.Grafts part around block taken others reading before after)
    (isFinished : (after.generator part).isFinished = true) :
    body.Alters taken others before after := by
  have alters := grafts.alters
  rwa [World.stand_of_isFinished isFinished] at alters

/-- **A part whose block is ended** leads on where its end does. -/
theorem Grafts.joins_of_closes {around : Generator} {block next : BlockRef}
    {taken others : List BlockRef} {reading whole : Reading} {operation : Operation}
    {closed : World} {least : Nat}
    (grafts : body.Grafts part around block taken others reading before middle)
    (works : body.Works middle part here) (closes : body.Closes here operation middle closed)
    (leads : body.LeadsOn closed around block next least whole) :
    body.Joins part around block next taken others least whole before (finished part closed) := by
  have moves : Moves part middle (finished part closed) := IsEffect.trans
    ((Untouched.of_generators _ closes.generators).moves works.ready.inside)
    (Moves.of_finish part closed)
  refine ⟨grafts.anew, moves.start.trans grafts.start,
    IsEffect.trans grafts.untouched (moves.untouched grafts.anew works.ready.inside), ?_,
    leads.later (closes.alters.tidy.alters_of_generators _)⟩
  have apart : ∀ other ∈ others, other ∉ [here] := fun other member same => by
    rw [List.mem_singleton.mp same] at member
    exact grafts.apart here works.stands member
  have closing := (closes.alters.finish part).frameAll
      (fun other member => grafts.alters.open_of_mem (List.mem_append_right _ member)) apart
  have alters := grafts.alters
  rw [works.stands.stand_eq] at alters
  rw [List.append_nil] at closing
  exact alters.trans (closing.congr (fun _ => by simp [or_comm]) fun _ => Iff.rfl)

/-- **A part that is led on** leads on. -/
theorem Grafts.leadTo {around : Generator} {block next : BlockRef} {taken others : List BlockRef}
    {reading : Reading} (grafts : body.Grafts part around block taken others reading before middle)
    (goes : body.IsTarget middle (.operand (.block next)))
    (run : Generator.leadTo part (.operand (.block next)) middle = .ok () after) :
    body.Joins part around block next taken others 1 reading before after := by
  rcases grafts.ready.leadTo grafts.alters.tidy goes run with
    ⟨isFinished, rfl⟩ | ⟨here, closed, works, rfl, closes⟩
  · exact ⟨grafts.anew, grafts.start, grafts.untouched, grafts.alters_of_isFinished isFinished,
      grafts.leads_of_isFinished isFinished (fun _ => id) fun _ => id⟩
  · refine grafts.joins_of_closes works closes fun code extended decide turns asked => ?_
    refine Carries.goOn 1 _ (grafts.reads code (extended.of_alters closes.alters) decide turns
      asked) (fun position falls => ?_) rfl (fun _ => id) (fun _ => id) (Nat.le_refl 1)
    -- Where the part has been left open is where the branch is.
    obtain ⟨standing, index⟩ := falls
    obtain ⟨there, index'⟩ := position
    obtain rfl := works.eq standing
    obtain rfl : index' = (body.code middle there).length := index
    exact closes.walks works.opened extended rfl

/-- What leads on in some number of steps leads on in fewer. -/
theorem LeadsOn.relax {world : World} {around : Generator} {start next : BlockRef}
    {least fewer : Nat} {reading : Reading}
    (leads : body.LeadsOn world around start next least reading) (relaxed : fewer ≤ least) :
    body.LeadsOn world around start next fewer reading :=
  fun code extended decide turns asked => (leads code extended decide turns asked).weaken
    (fun _ => id) (fun _ => id) (fun _ => id) (fun _ _ => relaxed) (Nat.le_refl turns)

/-- What leads on does so when its generator is finished. -/
theorem Joins.finish {around : Generator} {block next : BlockRef} {taken left : List BlockRef}
    {least : Nat} {reading : Reading}
    (joins : body.Joins part around block next taken left least reading before middle) :
    body.Joins part around block next taken left least reading before (finished part middle) where
  anew := joins.anew
  start := (Moves.of_finish part middle).start.trans joins.start
  untouched := by
    refine IsEffect.trans joins.untouched ⟨(Moves.of_finish part middle).grows, fun other known => ?_⟩
    rw [World.generator_changeGenerator, if_neg]
    exact fun claimed => Nat.ne_of_lt (Nat.lt_of_lt_of_le known joins.anew) claimed.1
  alters := joins.alters.finish part
  leads := joins.leads.later (joins.alters.tidy.alters_of_generators _)

end FreshBody

end StructuredIR
