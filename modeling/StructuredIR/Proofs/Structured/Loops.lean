import StructuredIR.Proofs.Structured.Parts

/-! # Loops of structured bodies

A loop begins at its header, which is the block at which its generator was or a new one. Its parts
are built at blocks of their own, the body before the comparison that is in front of it, and the
generator goes on at the exit.

* **`FreshBody.Blank`** says that blocks have come up, or are open, that have no code yet. The header
  and the other blocks of a loop are such blocks.
* **`FreshBody.Turns`** says what has come up when a part of a loop has been built, or when there is no
  such part.
* **`FreshBody.Works.loop`** puts the parts together: a loop is read as a loop of what its parts are
  read as. -/

namespace StructuredIR

open Build (bind_eq_ok get_eq_ok map_eq_ok modify_eq_ok pure_eq_ok)
open Generator (LoopBlocks blockValue)
open Account (LoopParts)

/-- What is recorded of a step is what is added by it. -/
theorem Account.record_ok {Result : Type} {place : GeneratorId} {step : Build Result}
    {before after : World} {result : Result} {added : List Instruction}
    (run : Account.record place step before = .ok (result, added) after) :
    step before = .ok result after ∧ added = Account.added place before after := by
  obtain ⟨seen, _, looked, run⟩ := bind_eq_ok.mp run
  obtain ⟨rfl, rfl⟩ := get_eq_ok.mp looked
  obtain ⟨value, between, stepping, run⟩ := bind_eq_ok.mp run
  obtain ⟨seen, _, looked, run⟩ := bind_eq_ok.mp run
  obtain ⟨rfl, rfl⟩ := get_eq_ok.mp looked
  obtain ⟨same, rfl⟩ := pure_eq_ok.mp run
  cases same
  exact ⟨stepping, rfl⟩

namespace FreshBody

open FunctionBody

variable {body : FreshBody} {before middle after : World} {place part : GeneratorId}
  {here header : BlockRef} {around : Generator} {reading : Reading}

/-! ## Blocks without code -/

variable (body) in
/-- **Some blocks are open and have no code**: they are what is left of those that were taken, or
new. -/
structure Blank (taken blocks : List BlockRef) (before after : World) : Prop where
  /-- They are the open blocks that are left. -/
  alters : body.Alters taken blocks before after
  /-- No generator has changed. -/
  generators : after.generators = before.generators
  /-- They are different ones. -/
  nodup : blocks.Nodup
  /-- They have no code. -/
  code (block : BlockRef) : block ∈ blocks → body.code after block = []
  /-- Control may go there. -/
  target (block : BlockRef) : block ∈ blocks → body.IsTarget after (blockValue block)

section

variable {taken blocks : List BlockRef}

/-- A new block has no code. -/
theorem Blank.appendNamed (blank : body.Blank taken blocks before middle) {base : String}
    {block : BlockRef} (run : Function.appendNamed body.reference base middle = .ok block after) :
    body.Blank taken (blocks ++ [block]) before after := by
  have tidy := blank.alters.tidy
  obtain ⟨rfl, adds, code, generators⟩ := tidy.appendNamed_ok run
  have old (other : BlockRef) (member : other ∈ blocks) : body.Open middle other :=
    blank.alters.open_of_mem member
  refine ⟨blank.alters.adding adds, generators.trans blank.generators, ?_, fun other member => ?_,
    fun other member => ?_⟩
  · refine List.nodup_append.mpr ⟨blank.nodup, List.nodup_singleton _, fun other member new new_mem => ?_⟩
    rw [List.mem_singleton.mp new_mem]
    rintro rfl
    exact not_isInside_next middle (old _ member).1
  · rcases List.mem_append.mp member with known | new
    · rw [adds.keeps other (old other known) List.not_mem_nil, blank.code other known]
    · rw [List.mem_singleton.mp new, code]
  · rcases List.mem_append.mp member with known | new
    · exact adds.target (blank.target other known)
    · exact adds.isTarget_of_mem tidy new List.not_mem_nil

/-- It does not matter in which order blocks come up. -/
theorem Blank.perm {others : List BlockRef} (blank : body.Blank taken blocks before after)
    (perm : blocks.Perm others) : body.Blank taken others before after where
  alters := blank.alters.congr (fun _ => Iff.rfl) fun _ => perm.symm.mem_iff
  generators := blank.generators
  nodup := perm.nodup_iff.mp blank.nodup
  code block member := blank.code block (perm.mem_iff.mpr member)
  target block member := blank.target block (perm.mem_iff.mpr member)

end

/-! ## The header -/

/-- **The header of a loop** is an open block without code, and control gets there without
executing anything. -/
theorem Works.loopHeader (works : body.Works before place here)
    (run : Generator.loopHeader place body.reference before = .ok header after) :
    body.Blank [here] [header] before after ∧
      ∀ code, body.Extends after code → ∀ decide asked, ∃ steps,
        Walks code decide steps ⟨⟨here, (body.code before here).length⟩, asked⟩ []
          ⟨⟨header, 0⟩, asked⟩ := by
  obtain ⟨current, _, positioned, run⟩ := bind_eq_ok.mp run
  rw [Generator.position_of_block works.stands.here] at positioned
  cases positioned
  obtain ⟨seen, _, looked, run⟩ := bind_eq_ok.mp run
  obtain ⟨rfl, rfl⟩ := get_eq_ok.mp looked
  obtain ⟨seen, _, looked, run⟩ := bind_eq_ok.mp run
  obtain ⟨rfl, rfl⟩ := get_eq_ok.mp looked
  split at run
  next same =>
    obtain ⟨rfl, rfl⟩ := pure_eq_ok.mp run
    rw [Bool.and_eq_true, works.tidy.entry] at same
    obtain ⟨empty, other⟩ := same
    have other : here ≠ body.entry := by
      rintro rfl
      simp at other
    have blank : body.code before here = [] := code_of_isEmpty empty
    refine ⟨⟨.refl works.tidy fun block member => ?_, rfl, List.nodup_singleton _,
      fun block member => ?_, fun block member => ?_⟩, fun code extended decide asked => ⟨0, ?_⟩⟩
    · exact List.mem_singleton.mp member ▸ works.opened
    · rw [List.mem_singleton.mp member, blank]
    · rw [List.mem_singleton.mp member]
      exact ⟨here, rfl, works.opened.1, other⟩
    · rw [blank]
      exact .stay _
  next =>
    obtain ⟨new, added, appending, run⟩ := bind_eq_ok.mp run
    obtain ⟨_, closed, emitting, run⟩ := bind_eq_ok.mp run
    obtain ⟨rfl, rfl⟩ := pure_eq_ok.mp run
    obtain ⟨adds, other, row, blank, goes, generators⟩ :=
      works.tidy.appendNamed_beside works.opened appending
    have untouched := Untouched.of_generators before.generators.length generators
    have worksThen := works.later untouched adds (adds.open_of_mem List.mem_cons_self)
    have closes := worksThen.closes rfl (fun value member => ?_) emitting
    · obtain ⟨alters, same⟩ := closes.beside adds other
      refine ⟨⟨alters, closes.generators.trans generators, List.nodup_singleton _,
        fun block member => ?_, fun block member => ?_⟩, fun code extended decide asked => ⟨1, ?_⟩⟩
      · rw [List.mem_singleton.mp member, same, blank]
      · rw [List.mem_singleton.mp member]
        exact closes.alters.target goes
      · have walks := closes.walks worksThen.opened extended
          (rfl : Walker.leadsTo decide asked (.branch (blockValue new)) = some _)
        rwa [row] at walks
    · rw [List.mem_singleton.mp member]
      exact goes

/-! ## The blocks of a loop -/

/-- The block of the comparison of a loop, if there is one: its header. -/
def compareBlock (parts : Generator.LoopParts) (blocks : LoopBlocks) : Option BlockRef :=
  parts.compare.map fun _ => blocks.header

/-- Where the body of a loop begins, or what comes behind it if there is no body. -/
def bodyStart (blocks : LoopBlocks) : BlockRef :=
  blocks.body.getD blocks.continue

/-- The blocks at which the parts of a loop are built. -/
def partBlocks (parts : Generator.LoopParts) (blocks : LoopBlocks) : List BlockRef :=
  blocks.body.toList ++ ((compareBlock parts blocks).toList ++ blocks.increment.toList)

/-- **The blocks of a loop fit its parts.** -/
structure LaysOut (parts : Generator.LoopParts) (blocks : LoopBlocks) : Prop where
  /-- There is a block of the body if there is a body. -/
  body : blocks.body.isSome = parts.body.isSome
  /-- There is a block of the increment if there is an increment. -/
  increment : blocks.increment.isSome = parts.increment.isSome
  /-- Without a comparison control goes to the body at once. -/
  start : parts.compare = none → bodyStart blocks = blocks.header
  /-- There is a part. -/
  nonempty : partBlocks parts blocks ≠ []

section

variable {taken : List BlockRef} {parts : Generator.LoopParts}

/-- The block of the body comes up in front of the header if there is a comparison, and is the header
otherwise. -/
theorem Blank.bodyBlock {body? : Option BlockRef} (blank : body.Blank taken [header] before middle)
    (run : Generator.bodyBlock body.reference header parts middle = .ok body? after) :
    body?.isSome = parts.body.isSome ∧ (parts.compare = none → body?.getD header = header) ∧
      body.Blank taken
        (if parts.body.isNone && parts.compare.isNone then [header]
          else body?.toList ++ (parts.compare.map fun _ => header).toList) before after := by
  obtain ⟨compare, increment, loopBody⟩ := parts
  cases loopBody with
  | none =>
      obtain ⟨rfl, rfl⟩ := pure_eq_ok.mp run
      refine ⟨rfl, fun _ => rfl, ?_⟩
      cases compare <;> exact blank
  | some loopBody =>
      cases compare with
      | none =>
          obtain ⟨rfl, rfl⟩ := pure_eq_ok.mp run
          exact ⟨rfl, fun _ => rfl, blank⟩
      | some compare =>
          obtain ⟨block, appending, rfl⟩ := map_eq_ok.mp run
          exact ⟨rfl, nofun, (blank.appendNamed appending).perm (List.Perm.swap block header [])⟩

/-- The block of the increment comes up behind the other ones, or is the header if there is no other
part. -/
theorem Blank.incrementBlock {blocks : List BlockRef} {increment? : Option BlockRef}
    (blank : body.Blank taken blocks before middle) (given : parts.isEmpty = false)
    (alone : (parts.body.isNone && parts.compare.isNone) = true → blocks = [header])
    (run : Generator.incrementBlock body.reference header parts middle = .ok increment? after) :
    increment?.isSome = parts.increment.isSome ∧
      ((parts.body.isNone && parts.compare.isNone) = true → increment? = some header) ∧
        body.Blank taken
          (if parts.body.isNone && parts.compare.isNone then increment?.toList
            else blocks ++ increment?.toList) before after := by
  obtain ⟨compare, increment, loopBody⟩ := parts
  cases increment with
  | none =>
      obtain ⟨rfl, rfl⟩ := pure_eq_ok.mp run
      have others : (loopBody.isNone && compare.isNone) = false := by
        simpa [Generator.LoopParts.isEmpty] using given
      simpa [others] using blank
  | some increment =>
      cases others : loopBody.isNone && compare.isNone with
      | true =>
          simp only [Generator.incrementBlock, others, if_true] at run
          obtain ⟨rfl, rfl⟩ := pure_eq_ok.mp run
          exact ⟨rfl, fun _ => rfl, alone others ▸ blank⟩
      | false =>
          simp only [Generator.incrementBlock, others, Bool.false_eq_true, if_false] at run
          obtain ⟨block, appending, rfl⟩ := map_eq_ok.mp run
          exact ⟨rfl, fun claimed => absurd claimed Bool.false_ne_true, blank.appendNamed appending⟩

/-- **The blocks of a loop** are open, different ones, without code. -/
theorem Blank.loopBlocks {blocks : LoopBlocks} (blank : body.Blank taken [header] before middle)
    (given : parts.isEmpty = false)
    (run : Generator.loopBlocks body.reference header parts .none middle = .ok blocks after) :
    LaysOut parts blocks ∧ blocks.header = header ∧ ∃ exit, blocks.exit = blockValue exit ∧
      body.Blank taken (exit :: partBlocks parts blocks) before after := by
  obtain ⟨body?, first, ofBody, run⟩ := bind_eq_ok.mp run
  obtain ⟨increment?, second, ofIncrement, run⟩ := bind_eq_ok.mp run
  obtain ⟨_, third, ofEnd, run⟩ := bind_eq_ok.mp run
  obtain ⟨rfl, rfl⟩ := pure_eq_ok.mp run
  obtain ⟨exit, ending, rfl⟩ := map_eq_ok.mp ofEnd
  obtain ⟨hasBody, start, blank⟩ := blank.bodyBlock ofBody
  obtain ⟨hasIncrement, alone, blank⟩ :=
    blank.incrementBlock given (fun none => if_pos none) ofIncrement
  have blank := (blank.appendNamed ending).perm List.perm_append_comm
  refine ⟨⟨hasBody, hasIncrement, fun direct => ?_, fun none => ?_⟩, rfl, exit, rfl, ?_⟩
  · cases body? with
    | some block => exact start direct
    | none =>
        rw [alone (by rw [← Option.not_isSome, ← hasBody, direct]; rfl)] at blank ⊢
        rfl
  · -- There is a part, and so there is a block.
    obtain ⟨compare, increment, loopBody⟩ := parts
    simp only [partBlocks, compareBlock, List.append_eq_nil_iff, Option.toList_eq_nil_iff,
      Option.map_eq_none_iff] at none
    obtain ⟨rfl, rfl, rfl⟩ := none
    simp_all [Generator.LoopParts.isEmpty]
  · -- Where no other part is in front of the increment, it is at the header.
    cases others : parts.body.isNone && parts.compare.isNone with
    | true =>
        rw [others, if_pos rfl] at blank
        rw [Bool.and_eq_true, Option.isNone_iff_eq_none, Option.isNone_iff_eq_none] at others
        have missing : body? = none := by simpa [others.1] using hasBody
        simpa [partBlocks, compareBlock, others.2, missing] using blank
    | false =>
        rw [others] at blank
        simpa [partBlocks, compareBlock] using blank

end

/-! ## Parts -/

variable (body) in
/-- **What is known while the parts of a loop are built**: the loop belongs to the function, and so
do the blocks to which control may go. -/
structure Looping (place : GeneratorId) (blocks : LoopBlocks) (exit : BlockRef) (world : World) :
    Prop where
  /-- The function is tidy. -/
  tidy : body.Tidy world
  /-- The generator of the loop is there. -/
  inside : place < world.generators.length
  /-- It is for the function. -/
  function : (world.generator place).function = body.reference
  /-- The loop ends at a block. -/
  ends : blocks.exit = blockValue exit
  /-- Control may go to the exit. -/
  leaves : body.IsTarget world (blockValue exit)
  /-- Control may go to the header. -/
  header : body.IsTarget world (blockValue blocks.header)
  /-- Control may go to where a turn goes on behind the body. -/
  onward : body.IsTarget world (blockValue blocks.continue)
  /-- Control may go to the beginning of the body. -/
  start : body.IsTarget world (blockValue (bodyStart blocks))

section

variable {blocks : LoopBlocks} {exit block : BlockRef}

/-- What is known of a loop stays known while its parts are built. -/
theorem Looping.later {taken left : List BlockRef} (looping : body.Looping place blocks exit before)
    (untouched : Untouched before.generators.length before after)
    (alters : body.Alters taken left before after) : body.Looping place blocks exit after where
  tidy := alters.tidy
  inside := Nat.lt_of_lt_of_le looping.inside untouched.grows
  function := by
    rw [untouched.same place looping.inside]
    exact looping.function
  ends := looping.ends
  leaves := alters.target looping.leaves
  header := alters.target looping.header
  onward := alters.target looping.onward
  start := alters.target looping.start

/-- The generator of a part of a loop at a block. -/
def partOf (reference : FunctionRef) (blocks : LoopBlocks) (block : BlockRef) : Generator where
  function := reference
  block := blockValue block
  start := blockValue block
  loopBlock := blockValue blocks.continue
  loopExit := blocks.exit
  isFinished := false

/-- **A generator of a part of a loop** is at work at the block of the part. -/
theorem Looping.loopPart (looping : body.Looping place blocks exit before)
    (opened : body.Open before block)
    (run : Generator.loopPart place block blocks before = .ok part after) :
    body.Opens part (partOf body.reference blocks block) block before after := by
  obtain ⟨rfl, made⟩ : part = before.generators.length ∧ after = { before with
      generators := before.generators ++ [partOf body.reference blocks block] } := by
    rw [← looping.function]
    cases run
    refine ⟨rfl, ?_⟩
    simp [World.changeGenerator, List.modify_eq_set_getElem?, partOf, Value.isGiven, blockValue]
  have same : after.generator before.generators.length = partOf body.reference blocks block := by
    rw [made, World.generator_append, if_pos rfl]
  have untouched : Untouched before.generators.length before after :=
    made ▸ untouched_append before (partOf body.reference blocks block)
  have alters : body.Alters [] [] before after := made ▸ looping.tidy.alters_of_generators _
  have stands : after.StandsAt before.generators.length block :=
    ⟨by rw [same]; rfl, by rw [same]; rfl⟩
  have later := alters.open_of_not_mem opened List.not_mem_nil
  refine ⟨rfl, same, untouched, alters, alters.tidy,
    ⟨?_, ?_, ⟨block, ⟨stands.here, later.1⟩, fun _ => later⟩, ?_, ?_⟩, stands⟩
  · rw [made, List.length_append]
    exact Nat.lt_succ_self _
  · rw [same]
    rfl
  · intro _
    rw [same]
    exact alters.target looping.onward
  · intro _
    rw [same]
    have leaves := alters.target looping.leaves
    rwa [← looping.ends] at leaves

/-- **What has been built for a part of a loop**, which may be missing: its block is closed, and it
leads on from where it begins. -/
structure Turns (body : FreshBody) (around : Generator) (part? : Option BlockRef)
    (start next : BlockRef) (least : Nat) (reading : Reading) (before after : World) : Prop where
  /-- Other generators are the same. -/
  untouched : Untouched before.generators.length before after
  /-- The block of the part is closed. -/
  alters : body.Alters part?.toList [] before after
  /-- The part leads on. -/
  leads : body.LeadsOn after around start next least reading

/-- A part that has been built and leads on. -/
theorem Turns.of_joins {next : BlockRef} {least : Nat}
    (joins : body.Joins part around block next [block] [] least reading before after) :
    body.Turns around (some block) block next least reading before after :=
  ⟨joins.untouched, joins.alters, joins.leads⟩

/-- A part that is missing. -/
theorem Turns.missing (tidy : body.Tidy before) (around : Generator) (start : BlockRef) :
    body.Turns around none start start 0 (.run []) before before :=
  ⟨IsEffect.refl _, .refl tidy nofun, LeadsOn.refl before around start⟩

/-- What a new generator builds for a part of a loop is grafted at its block. -/
theorem Looping.grafts (looping : body.Looping place blocks exit before)
    (opened : body.Open before block) (blank : body.code before block = [])
    (making : Generator.loopPart place block blocks before = .ok part middle)
    (builds : body.Works middle part block → body.Builds part reading middle after) :
    body.Grafts part (partOf body.reference blocks blocks.header) block [block] [] reading before
      after := by
  have opens := looping.loopPart opened making
  exact opens.grafts (builds opens.works) rfl rfl rfl (IsEffect.refl before)
    (.refl looping.tidy (List.forall_mem_singleton.mpr opened)) blank

/-- A callback that gets the values of slots builds the loads of them and what it accounts for. -/
theorem Works.callWithLoads {callback : AccountedCallback} {slots : List Operand}
    {loaded : World} {values : List Value} {loads : List Instruction} {value : Value}
    (works : body.Works before part block) (faithful : body.Faithful callback)
    (loading : Account.record part (Generator.loadSlots part slots) before =
      .ok (values, loads) loaded)
    (calling : callback.run (.generator part :: values) loaded = .ok (value, reading) after) :
    body.Builds part (.seq (.run loads) reading) before after := by
  obtain ⟨stepping, rfl⟩ := Account.record_ok loading
  obtain ⟨more, grows⟩ := works.emits (Generator.leads_loadSlots part slots) stepping
  rw [grows.added_eq works]
  have worksThen := grows.works works
  exact (grows.builds works).seq (faithful _ _ _ _ _ _ worksThen.tidy worksThen.ready calling)

/-- **The body of a loop** leads on to where a turn goes on. -/
theorem Looping.buildBody {callback? : Option AccountedCallback} {slots : List Operand}
    (looping : body.Looping place blocks exit before)
    (given : blocks.body.isSome = callback?.isSome)
    (blank : ∀ block ∈ blocks.body.toList, body.Open before block ∧ body.code before block = [])
    (faithful : ∀ callback, callback? = some callback → body.Faithful callback)
    (run : Account.buildBody place blocks slots callback? blocks.body before = .ok reading after) :
    body.Turns (partOf body.reference blocks blocks.header) blocks.body (bodyStart blocks)
      blocks.continue blocks.body.toList.length reading before after := by
  rcases own : blocks.body with _ | block
  · obtain rfl : callback? = none := by simpa [own] using given.symm
    obtain ⟨rfl, rfl⟩ := pure_eq_ok.mp run
    rw [bodyStart, own]
    exact .missing looping.tidy _ _
  · obtain ⟨callback, rfl⟩ : ∃ callback, callback? = some callback :=
      Option.isSome_iff_exists.mp (by rw [← given, own]; rfl)
    rw [own] at run blank
    obtain ⟨part, made, making, run⟩ := bind_eq_ok.mp run
    obtain ⟨⟨values, loads⟩, loaded, loading, run⟩ := bind_eq_ok.mp run
    obtain ⟨⟨value, read⟩, built, calling, run⟩ := bind_eq_ok.mp run
    obtain ⟨_, led, leading, run⟩ := bind_eq_ok.mp run
    obtain ⟨_, _, finishing, run⟩ := bind_eq_ok.mp run
    obtain rfl := modify_eq_ok.mp finishing
    obtain ⟨rfl, rfl⟩ := pure_eq_ok.mp run
    obtain ⟨opened, code⟩ := blank block (List.mem_singleton_self block)
    have grafts := looping.grafts opened code making fun works =>
      works.callWithLoads (faithful callback rfl) loading calling
    have joins := grafts.leadTo (looping.later grafts.untouched grafts.alters).onward leading
    rw [bodyStart, own]
    exact .of_joins joins.finish

/-- **A comparison** leads on to the body if its condition holds, and leaves the loop otherwise. -/
theorem Looping.branchOn {result : Value} {taken others : List BlockRef}
    (looping : body.Looping place blocks exit middle)
    (around : Generator) (ends : around.loopExit = blocks.exit)
    (grafts : body.Grafts part around block taken others reading before middle)
    (run : Generator.branchOn part blocks result middle = .ok () after) :
    body.Joins part around block (bodyStart blocks) taken others 1 (.seq reading .test) before
      after := by
  obtain ⟨seen, _, looked, run⟩ := bind_eq_ok.mp run
  obtain ⟨rfl, rfl⟩ := get_eq_ok.mp looked
  cases isFinished : (middle.generator part).isFinished with
  | true =>
      rw [isFinished] at run
      obtain ⟨-, rfl⟩ := pure_eq_ok.mp run
      refine ⟨grafts.anew, grafts.start, grafts.untouched, grafts.alters_of_isFinished isFinished,
        fun code extended decide turns asked => ?_⟩
      have carries : Carries code decide turns ⟨⟨block, 0⟩, asked⟩
          (reading.exec decide turns asked) (partExits around (fun _ => False) 1) :=
        grafts.leads_of_isFinished isFinished (fun _ => id) (fun _ => id) code extended decide turns
          asked
      exact (carries.andThen (partExits around (· = ⟨bodyStart blocks, 0⟩) 0)
        (fun _ => False.elim) (fun _ => id) fun _ => id)
  | false =>
      rw [isFinished] at run
      obtain ⟨condition, coerced, coercing, run⟩ := bind_eq_ok.mp run
      obtain ⟨_, closed, emitting, run⟩ := bind_eq_ok.mp run
      obtain rfl := modify_eq_ok.mp run
      have same : SameCode middle coerced :=
        (Generator.leads_coerce part result _).of_ok coercing
      have coerces := looping.tidy.alters_of_sameCode same
      have untouched := Untouched.of_generators middle.generators.length same.generators
      have looping := looping.later untouched coerces
      rw [← untouched.same part grafts.ready.inside] at isFinished
      have grafts := grafts.later coerces same.generators
      rw [List.append_nil] at grafts
      obtain ⟨here, stands, -⟩ := grafts.ready.stands isFinished
      have works : body.Works coerced part here := ⟨looping.tidy, grafts.ready, stands⟩
      rw [looping.ends] at emitting
      have closes : body.Closes here (.branchIf condition (blockValue (bodyStart blocks))
          (blockValue exit)) coerced closed := by
        refine works.closes rfl (fun value member => ?_) emitting
        rcases List.mem_cons.mp member with rfl | member
        · exact looping.start
        · rw [List.mem_singleton.mp member]
          exact looping.leaves
      refine grafts.joins_of_closes works closes fun code extended decide turns asked => ?_
      have reads := grafts.reads code (extended.of_alters closes.alters) decide turns asked
      refine (reads.andThen (partExits around (· = ⟨bodyStart blocks, 0⟩) 1)
        (fun position falls => ?_) (fun _ => id) fun _ => id).weaken (fun _ => id) (fun _ => id)
        (fun _ => id) (fun _ _ => Nat.le_add_left 1 0) (Nat.le_refl turns)
      -- Where the comparison has been left open is where the choice is.
      obtain ⟨standing, index⟩ := falls
      obtain ⟨there, index'⟩ := position
      obtain rfl := works.eq standing
      obtain rfl : index' = (body.code coerced there).length := index
      generalize (reading.exec decide turns asked).asked = seen
      have forks := closes.forks works.opened extended decide seen
      rw [Reading.exec]
      cases holds : decide seen <;> rw [holds] at forks
      · exact ⟨1, ⟨exit, 0⟩, forks, ends.trans looping.ends, rfl⟩
      · exact ⟨1, ⟨bodyStart blocks, 0⟩, forks, rfl, Nat.le_refl 1⟩

/-- **The comparison of a loop** leads on to the body or leaves the loop. -/
theorem Looping.buildCompare {parts : LoopParts} {slots : List Operand}
    (looping : body.Looping place blocks exit before)
    (start : parts.compare = none → bodyStart blocks = blocks.header)
    (blank : ∀ block ∈ (compareBlock parts.plain blocks).toList,
      body.Open before block ∧ body.code before block = [])
    (faithful : ∀ callback, parts.compare = some callback → body.Faithful callback)
    (run : Account.buildCompare place blocks slots parts.compare before = .ok reading after) :
    body.Turns (partOf body.reference blocks blocks.header) (compareBlock parts.plain blocks)
      blocks.header (bodyStart blocks) (compareBlock parts.plain blocks).toList.length reading before
      after := by
  have isBlock : compareBlock parts.plain blocks = parts.compare.map fun _ => blocks.header := by
    rw [compareBlock, LoopParts.plain, Option.map_map]
    rfl
  rw [isBlock] at blank ⊢
  cases compare : parts.compare with
  | none =>
      rw [compare] at run
      obtain ⟨rfl, rfl⟩ := pure_eq_ok.mp run
      rw [start compare]
      exact .missing looping.tidy _ _
  | some callback =>
      rw [compare] at run blank
      obtain ⟨part, made, making, run⟩ := bind_eq_ok.mp run
      obtain ⟨⟨values, loads⟩, loaded, loading, run⟩ := bind_eq_ok.mp run
      obtain ⟨⟨value, read⟩, built, calling, run⟩ := bind_eq_ok.mp run
      obtain ⟨_, led, leading, run⟩ := bind_eq_ok.mp run
      obtain ⟨_, _, finishing, run⟩ := bind_eq_ok.mp run
      obtain rfl := modify_eq_ok.mp finishing
      obtain ⟨rfl, rfl⟩ := pure_eq_ok.mp run
      obtain ⟨opened, code⟩ := blank blocks.header (List.mem_singleton_self _)
      have grafts := looping.grafts opened code making fun works =>
        works.callWithLoads (faithful callback compare) loading calling
      have joins := (looping.later grafts.untouched grafts.alters).branchOn
        (partOf body.reference blocks blocks.header) rfl grafts leading
      exact .of_joins joins.finish

/-- **The increment of a loop** leads back to the header. -/
theorem Looping.buildIncrement {callback? : Option AccountedCallback} {slots : List Operand}
    (looping : body.Looping place blocks exit before)
    (given : blocks.increment.isSome = callback?.isSome)
    (blank : ∀ block ∈ blocks.increment.toList,
      body.Open before block ∧ body.code before block = [])
    (faithful : ∀ callback, callback? = some callback → body.Faithful callback)
    (run : Account.buildIncrement place blocks slots callback? blocks.increment before =
      .ok reading after) :
    body.Turns (partOf body.reference blocks blocks.header) blocks.increment blocks.continue
      blocks.header blocks.increment.toList.length reading before after := by
  rcases own : blocks.increment with _ | block
  · obtain rfl : callback? = none := by simpa [own] using given.symm
    obtain ⟨rfl, rfl⟩ := pure_eq_ok.mp run
    rw [LoopBlocks.continue, own]
    exact .missing looping.tidy _ _
  · obtain ⟨callback, rfl⟩ : ∃ callback, callback? = some callback :=
      Option.isSome_iff_exists.mp (by rw [← given, own]; rfl)
    rw [own] at run blank
    obtain ⟨part, made, making, run⟩ := bind_eq_ok.mp run
    obtain ⟨⟨value, read⟩, built, calling, run⟩ := bind_eq_ok.mp run
    obtain ⟨_, led, leading, run⟩ := bind_eq_ok.mp run
    obtain ⟨_, _, finishing, run⟩ := bind_eq_ok.mp run
    obtain rfl := modify_eq_ok.mp finishing
    obtain ⟨rfl, rfl⟩ := pure_eq_ok.mp run
    obtain ⟨opened, code⟩ := blank block (List.mem_singleton_self block)
    have grafts := looping.grafts opened code making fun works =>
      faithful callback rfl _ _ _ _ _ _ works.tidy works.ready calling
    have joins := grafts.leadTo (looping.later grafts.untouched grafts.alters).header leading
    rw [LoopBlocks.continue, own]
    exact .of_joins joins.finish

/-- Blocks of other parts stay open and without code. -/
theorem Turns.keeps {part? : Option BlockRef} {start next other : BlockRef} {least : Nat}
    (turns : body.Turns around part? start next least reading before after)
    (blank : body.Open before other ∧ body.code before other = []) (free : other ∉ part?.toList) :
    body.Open after other ∧ body.code after other = [] :=
  ⟨turns.alters.open_of_not_mem blank.1 free, turns.alters.keeps other blank.1 free ▸ blank.2⟩

/-- A part of a loop ends behind itself, at the exit, or where a turn goes on behind the body. -/
theorem Turns.carries {part? : Option BlockRef} {start next : BlockRef} {least : Nat}
    (turns : body.Turns (partOf body.reference blocks blocks.header) part? start next least reading
      before after) (ends : blocks.exit = blockValue exit)
    (code : BlockRef → List Instruction) (extended : body.Extends after code)
    (decide : Nat → Bool) (count asked : Nat) :
    Carries code decide count ⟨⟨start, 0⟩, asked⟩ (reading.exec decide count asked)
      ⟨(· = ⟨next, 0⟩), (· = ⟨exit, 0⟩), (· = ⟨blocks.continue, 0⟩), least⟩ := by
  refine (turns.leads code extended decide count asked).weaken (fun _ => id)
    (fun position leaves => ?_) (fun position again => ?_) (fun _ _ => Nat.le_refl least)
    (Nat.le_refl count)
  · obtain ⟨there, index⟩ := position
    obtain ⟨same, rfl⟩ := leaves
    cases same.symm.trans ends
    rfl
  · obtain ⟨there, index⟩ := position
    obtain ⟨same, rfl⟩ := again
    cases same
    rfl

/-- Callbacks of a loop that build what they account for. -/
structure Faithfully (body : FreshBody) (parts : LoopParts) : Prop where
  /-- The comparison does. -/
  compare (callback : AccountedCallback) :
    parts.compare = some callback → body.Faithful callback
  /-- The increment does. -/
  increment (callback : AccountedCallback) :
    parts.increment = some callback → body.Faithful callback
  /-- The body does. -/
  body (callback : AccountedCallback) : parts.body = some callback → body.Faithful callback

/-- **The parts of a loop** are built at their blocks, which are closed then, and carry out turns from
the header to the exit. -/
theorem Looping.buildParts {parts : LoopParts} {slots : List Operand}
    (looping : body.Looping place blocks exit before) (fits : LaysOut parts.plain blocks)
    (nodup : (partBlocks parts.plain blocks).Nodup)
    (blank : ∀ block ∈ partBlocks parts.plain blocks,
      body.Open before block ∧ body.code before block = [])
    (faithful : body.Faithfully parts)
    (run : Account.buildParts place parts blocks slots before = .ok reading after) :
    Untouched before.generators.length before after ∧
      body.Alters (partBlocks parts.plain blocks) [] before after ∧
        ∀ code, body.Extends after code → ∀ decide turns asked,
          Carries code decide turns ⟨⟨blocks.header, 0⟩, asked⟩ (reading.exec decide turns asked)
            ⟨(· = ⟨exit, 0⟩), fun _ => False, fun _ => False, 0⟩ := by
  obtain ⟨ofBody, first, buildingBody, run⟩ := bind_eq_ok.mp run
  obtain ⟨ofCompare, second, buildingCompare, run⟩ := bind_eq_ok.mp run
  obtain ⟨ofIncrement, third, buildingIncrement, run⟩ := bind_eq_ok.mp run
  obtain ⟨rfl, rfl⟩ := pure_eq_ok.mp run
  have nonempty := List.length_pos_iff.mpr fits.nonempty
  obtain ⟨-, nodupOthers, apart⟩ := List.nodup_append.mp nodup
  obtain ⟨-, -, apartOthers⟩ := List.nodup_append.mp nodupOthers
  simp only [partBlocks, List.mem_append] at blank apart nonempty ⊢
  -- Each part leaves the blocks of the parts behind it as they are.
  have turnsBody := looping.buildBody (by rw [fits.body, LoopParts.plain, Option.isSome_map])
    (fun block member => blank block (.inl member)) faithful.body buildingBody
  have looping := looping.later turnsBody.untouched turnsBody.alters
  have freeOfBody {block : BlockRef} (member : block ∈ (compareBlock parts.plain blocks).toList ∨
      block ∈ blocks.increment.toList) : block ∉ blocks.body.toList :=
    fun claimed => apart block claimed block member rfl
  have turnsCompare := looping.buildCompare (fun direct => fits.start (by rw [LoopParts.plain, direct]; rfl))
    (fun block member => turnsBody.keeps (blank block (.inr (.inl member))) (freeOfBody (.inl member)))
    faithful.compare buildingCompare
  have looping := looping.later turnsCompare.untouched turnsCompare.alters
  have freeOfCompare {block : BlockRef} (member : block ∈ blocks.increment.toList) :
      block ∉ (compareBlock parts.plain blocks).toList :=
    fun claimed => apartOthers block claimed block member rfl
  have turnsIncrement := looping.buildIncrement
    (by rw [fits.increment, LoopParts.plain, Option.isSome_map])
    (fun block member => turnsCompare.keeps
      (turnsBody.keeps (blank block (.inr (.inr member))) (freeOfBody (.inr member)))
      (freeOfCompare member)) faithful.increment buildingIncrement
  refine ⟨(turnsBody.untouched.andThen turnsCompare.untouched).andThen turnsIncrement.untouched,
    turnsBody.alters.andThen (turnsCompare.alters.andThen turnsIncrement.alters
      fun block member => ?_) fun block member => ?_, fun code extended decide turns asked => ?_⟩
  · have kept := turnsBody.keeps (blank block (.inr (.inr member))) (freeOfBody (.inr member))
    exact ⟨kept.1, freeOfCompare member⟩
  · rw [List.mem_append] at member
    exact ⟨(blank block (.inr member)).1, freeOfBody member⟩
  · have extendedSecond := extended.of_alters turnsIncrement.alters
    have extendedFirst := extendedSecond.of_alters turnsCompare.alters
    refine Carries.loop (turnsCompare.carries looping.ends code extendedSecond decide turns)
      (turnsBody.carries looping.ends code extendedFirst decide turns)
      (turnsIncrement.carries looping.ends code extended decide turns) ?_ asked
    rw [List.length_append, List.length_append] at nonempty
    omega

end

/-! ## Loops -/

/-- Putting the exit of a loop at the end of the function alters nothing. -/
theorem Tidy.moveToEnd_ok (tidy : body.Tidy before) {moved : Value}
    (goes : body.IsTarget before moved)
    (run : Generator.moveToEnd body.reference moved before = .ok () after) :
    body.Alters [] [] before after ∧ after.generators = before.generators := by
  obtain ⟨seen, _, looked, run⟩ := bind_eq_ok.mp run
  obtain ⟨rfl, rfl⟩ := get_eq_ok.mp looked
  cases last : (before.blocks (before.functionSymbol body.reference)).getLast? with
  | none =>
      rw [last] at run
      cases run
  | some last =>
      rw [last] at run
      exact tidy.moveAfter_ok goes.ne_entry run

/-- What is known while the parts of a loop are built is known when its blocks have come up. -/
theorem Works.looping {blocks : LoopBlocks} {exit : BlockRef} {parts : Generator.LoopParts}
    {taken : List BlockRef} (works : body.Works before place here)
    (untouched : Untouched before.generators.length before after)
    (ends : blocks.exit = blockValue exit)
    (header : body.IsTarget after (blockValue blocks.header))
    (blank : body.Blank taken (exit :: partBlocks parts blocks) middle after) :
    body.Looping place blocks exit after := by
  have goes {block : BlockRef} (member : block ∈ blocks.body.toList ∨ block ∈ blocks.increment.toList) :
      body.IsTarget after (blockValue block) := by
    refine blank.target block (List.mem_cons_of_mem exit ?_)
    rw [partBlocks, List.mem_append, List.mem_append]
    exact member.imp_right .inr
  have onward : body.IsTarget after (blockValue blocks.continue) := by
    rw [LoopBlocks.continue]
    cases own : blocks.increment with
    | none => exact header
    | some block => exact goes (.inr (by rw [own]; exact List.mem_singleton_self block))
  refine ⟨blank.alters.tidy, Nat.lt_of_lt_of_le works.ready.inside untouched.grows, ?_, ends,
    blank.target exit List.mem_cons_self, header, onward, ?_⟩
  · rw [untouched.same place works.ready.inside]
    exact works.ready.function
  · rw [bodyStart]
    cases own : blocks.body with
    | none => exact onward
    | some block => exact goes (.inl (by rw [own]; exact List.mem_singleton_self block))

/-- **The turns of a loop** are built from the block of its generator on, which goes on at the
exit. -/
theorem Works.turns {parts : LoopParts} {blocks : LoopBlocks} {slots : List Operand}
    {headed laid built closed : World} (works : body.Works before place here)
    (given : parts.plain.isEmpty = false) (faithful : body.Faithfully parts)
    (heading : Generator.loopHeader place body.reference before = .ok header headed)
    (laying : Generator.loopBlocks body.reference header parts.plain .none headed =
      .ok blocks laid)
    (building : Account.buildParts place parts blocks slots laid = .ok reading built)
    (moving : Generator.moveToEnd body.reference blocks.exit built = .ok () closed) :
    body.Builds place reading before
      (closed.changeGenerator place fun generator => { generator with block := blocks.exit }) := by
  obtain ⟨atHeader, approaches⟩ := works.loopHeader heading
  have member : header ∈ [header] := List.mem_singleton_self header
  have fresh : body.Blank [header] [header] headed headed :=
    ⟨.refl atHeader.alters.tidy fun block member => atHeader.alters.open_of_mem member, rfl,
      atHeader.nodup, atHeader.code, atHeader.target⟩
  obtain ⟨fits, rfl, exit, ends, blank⟩ := fresh.loopBlocks given laying
  have first : Untouched before.generators.length before laid :=
    .of_generators _ (blank.generators.trans atHeader.generators)
  have looping := works.looping first ends
    (blank.alters.target (atHeader.target blocks.header member)) blank
  obtain ⟨apart, nodup⟩ := List.nodup_cons.mp blank.nodup
  have opened (block : BlockRef) (member : block ∈ exit :: partBlocks parts.plain blocks) :
      body.Open laid block ∧ body.code laid block = [] :=
    ⟨blank.alters.open_of_mem member, blank.code block member⟩
  obtain ⟨untouched, closes, carries⟩ := looping.buildParts fits nodup
    (fun block member => opened block (List.mem_cons_of_mem exit member)) faithful building
  rw [ends] at moving ⊢
  obtain ⟨moves, generators⟩ :=
    closes.tidy.moveToEnd_ok (closes.target looping.leaves) moving
  -- Only the exit is left open.
  have alters : body.Alters [here] [exit] before closed := by
    have all := ((atHeader.alters.trans blank.alters).closing closes
      fun block member => List.mem_cons_of_mem exit member).idly moves
    refine all.congr (fun _ => Iff.rfl) fun block => ?_
    rw [List.mem_singleton, List.mem_filter, List.mem_cons, decide_eq_true_eq]
    constructor
    · rintro rfl
      exact ⟨.inl rfl, apart⟩
    · rintro ⟨same | member, other⟩
      · exact same
      · exact absurd member other
  have blankExit : body.code closed exit = [] := by
    obtain ⟨opened, code⟩ := opened exit List.mem_cons_self
    rw [moves.keeps exit (closes.open_of_not_mem opened apart) List.not_mem_nil,
      closes.keeps exit opened apart, code]
  have stays : Untouched before.generators.length before closed :=
    (first.andThen untouched).andThen (.of_generators _ generators)
  refine works.builds_moved stays alters fun there stands code extended decide turns asked => ?_
  obtain rfl := works.eq stands
  have extended := extends_of_generators extended moves.tidy
  have extendedParts := extended.of_alters moves
  obtain ⟨steps, walks⟩ := approaches code
    ((extendedParts.of_alters closes).of_alters blank.alters) decide asked
  refine ((carries code extendedParts decide turns asked).behind walks).weaken
    (fun position behind => ?_) (fun _ => False.elim) (fun _ => False.elim)
    (fun _ _ => Nat.zero_le _) (Nat.le_add_left turns steps)
  subst behind
  refine ⟨works.standsAt_moved stays exit, ?_⟩
  show 0 = (body.code closed exit).length
  rw [blankExit]
  rfl

/-- **A loop** is read as what fills its slots and a loop of what its parts are read as. -/
theorem Works.loop {initial value : Value} {parts : LoopParts}
    (works : body.Works before place here) (faithful : body.Faithfully parts)
    (run : Account.loop place initial parts .none before = .ok (value, reading) after) :
    body.Builds place reading before after := by
  obtain ⟨seen, _, looked, run⟩ := bind_eq_ok.mp run
  obtain ⟨rfl, rfl⟩ := get_eq_ok.mp looked
  rw [works.stands.unfinished, if_neg Bool.false_ne_true] at run
  cases given : parts.plain.isEmpty with
  | true =>
      rw [given, if_pos rfl] at run
      obtain ⟨_, _, rejecting, -⟩ := bind_eq_ok.mp run
      cases rejecting
  | false =>
      rw [given, if_neg Bool.false_ne_true] at run
      obtain ⟨seen, _, looked, run⟩ := bind_eq_ok.mp run
      obtain ⟨rfl, rfl⟩ := get_eq_ok.mp looked
      rw [works.ready.function] at run
      obtain ⟨seen, _, looked, run⟩ := bind_eq_ok.mp run
      obtain ⟨rfl, rfl⟩ := get_eq_ok.mp looked
      obtain ⟨⟨slots, added⟩, slotted, filling, run⟩ := bind_eq_ok.mp run
      obtain ⟨header, headed, heading, run⟩ := bind_eq_ok.mp run
      obtain ⟨blocks, laid, laying, run⟩ := bind_eq_ok.mp run
      obtain ⟨turns, built, building, run⟩ := bind_eq_ok.mp run
      obtain ⟨_, reordered, moving, run⟩ := bind_eq_ok.mp run
      obtain ⟨_, _, positioning, run⟩ := bind_eq_ok.mp run
      obtain rfl := modify_eq_ok.mp positioning
      obtain ⟨same, rfl⟩ := pure_eq_ok.mp run
      cases same
      -- The slots are filled in front of everything else.
      obtain ⟨storing, same⟩ := Account.record_ok filling
      obtain ⟨more, grows⟩ := works.emits (Generator.leads_createSlots place _) storing
      rw [same, grows.added_eq works]
      exact (grows.builds works).seq
        ((grows.works works).turns given faithful heading laying building moving)

end FreshBody

end StructuredIR
